import QueryPatch.Text.Basic

/-! # Roles of lines

A generated query has one keyword, select item, table or predicate on each line. The role of a line
says which; a line that is none of these is plain text.
-/
set_option autoImplicit false

namespace QueryPatch

/-- The keywords that stand alone on their lines. -/
inductive Keyword
  | select
  | source
  | filter
  | conjunct
  | groupBy
  | orderBy
  deriving DecidableEq

namespace Keyword

def all : List Keyword := [select, source, filter, conjunct, groupBy, orderBy]

def text : Keyword → Text
  | select => "select"
  | source => "from"
  | filter => "where"
  | conjunct => "and"
  | groupBy => "group by"
  | orderBy => "order by"

/-- A keyword line has nothing else on it, blanks included. -/
def ofText? (line : Text) : Option Keyword := all.find? fun keyword => keyword.text = line

theorem ofText?_text (keyword : Keyword) : ofText? keyword.text = some keyword := by
  cases keyword <;> decide

theorem ofText?_eq_some_iff {line : Text} {keyword : Keyword} :
    ofText? line = some keyword ↔ line = keyword.text := by
  constructor
  · intro h
    have := List.find?_some h
    simpa using (of_decide_eq_true this).symm
  · rintro rfl
    exact ofText?_text keyword

end Keyword

inductive Role
  | text
  | keyword (keyword : Keyword)
  | table
  | aggregation
  | join
  | condition
  deriving DecidableEq

namespace Role

def label : Role → Text
  | text => "text"
  | .keyword word => word.text
  | table => "table"
  | aggregation => "select_aggregation"
  | join => "join_condition"
  | condition => "condition"

end Role
end QueryPatch
