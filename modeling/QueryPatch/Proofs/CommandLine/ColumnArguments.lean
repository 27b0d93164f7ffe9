import QueryPatch.CommandLine.Arguments

/-! # Columns in front of the arguments

Arguments that name columns, put in front of others, change nothing but the columns: whatever the
others are read as, they are read as that with these columns before their own.
-/
set_option autoImplicit false

namespace QueryPatch.CommandLine

def Options.withColumns (options : Options) (columns : List (Option Text)) : Options :=
  { options with sketchColumns := columns ++ options.sketchColumns }

def Invocation.withColumns (invocation : Invocation) (columns : List (Option Text)) : Invocation :=
  { invocation with options := invocation.options.withColumns columns }

namespace Arguments

def withColumns (arguments : Arguments) (columns : List (Option Text)) : Arguments :=
  match arguments with
  | .invocation given => .invocation (given.withColumns columns)
  | other => other

def Progress.withColumns (progress : Progress) (columns : List (Option Text)) : Progress :=
  { progress with options := progress.options.withColumns columns }

section read

variable (columns : List (Option Text))

theorem serve_withColumns (options : Options) (request : Request) :
    (options.withColumns columns).serve request =
      (options.serve request).map (·.withColumns columns) := by
  obtain ⟨switch, value⟩ := request
  cases switch <;> simp [Options.serve, Options.withColumns]

theorem foldlM_serve_withColumns (options : Options) (requests : List Request) :
    requests.foldlM Options.serve (options.withColumns columns) =
      (requests.foldlM Options.serve options).map (·.withColumns columns) := by
  induction requests generalizing options with
  | nil => rfl
  | cons request rest ih =>
    rw [List.foldlM_cons, List.foldlM_cons, serve_withColumns]
    cases options.serve request with
    | none => rfl
    | some served => exact ih served

theorem Progress.serve_withColumns (progress : Progress) (requests : List Request) :
    (progress.withColumns columns).serve requests =
      (progress.serve requests).map (·.withColumns columns) := by
  rw [Progress.serve, Progress.serve, Progress.withColumns, foldlM_serve_withColumns]
  cases requests.foldlM Options.serve progress.options <;> rfl

theorem Progress.finish_withColumns (progress : Progress) :
    (progress.withColumns columns).finish = progress.finish.withColumns columns := by
  rw [Progress.finish, Progress.finish, Progress.withColumns]
  cases progress.input with
  | none => rfl
  | some input => dsimp only; split <;> rfl

theorem read_withColumns (progress : Progress) (tokens : List (Text × Token)) :
    read (progress.withColumns columns) tokens = (read progress tokens).withColumns columns := by
  have hInput (progress : Progress) : (progress.withColumns columns).input = progress.input := rfl
  -- a step depends on the options only by what the requests make of them
  fun_induction read progress tokens with
  | case1 progress => exact progress.finish_withColumns columns
  | case2 progress argument input rest h ih =>
    rw [read]
    · exact ih
    · exact input
    · exact h
  | case6 progress argument rest hRest ih =>
    rw [read]
    · exact ih
    · exact hRest
  | case3 _ _ _ _ h ih | case4 _ _ _ _ h ih | case5 _ _ _ _ h ih =>
    simp only [read, hInput, h]
    exact ih
  | case7 progress argument rest ih => exact ih
  | case8 _ _ _ _ _ _ _ hBundle =>
    simp only [read, hBundle]
    rfl
  | case9 _ _ _ _ _ _ hBundle _ hPending _ hServe ih
  | case11 _ _ _ _ _ _ hBundle _ _ _ hPending _ hServe ih =>
    simp only [read, hBundle, hPending, Progress.serve_withColumns, hServe, Option.map_some]
    exact ih
  | case10 _ _ _ _ _ _ hBundle _ hPending hServe
  | case12 _ _ _ _ _ _ hBundle _ _ _ hPending hServe =>
    simp only [read, hBundle, hPending, Progress.serve_withColumns, hServe, Option.map_none]
    rfl
  | case13 _ _ _ _ _ _ _ hBundle _ hPending =>
    simp only [read, hBundle, hPending]
    rfl

end read

def columnArgument (name : Text) : Text := "--hll-column=" ++ name

def columnToken (name : Text) : Text × Token :=
  (columnArgument name, .option .sketchColumn "--hll-column" (some name))

theorem ofArgument_columnArgument (name : Text) :
    Token.ofArgument (columnArgument name) =
      .ok (.option .sketchColumn "--hll-column" (some name)) :=
  rfl

theorem ofArguments_columns {arguments : List Text} {tokens : List (Text × Token)}
    (h : Token.ofArguments arguments = .ok tokens) (names : List Text) :
    Token.ofArguments (names.map columnArgument ++ arguments) =
      .ok (names.map columnToken ++ tokens) := by
  induction names with
  | nil => exact h
  | cons name rest ih =>
    have hMark : columnArgument name ≠ mark := nofun
    rw [List.map_cons, List.cons_append, Token.ofArguments, if_neg hMark, ofArgument_columnArgument,
      ih]
    rfl

theorem read_columns (names : List Text) (columns : List (Option Text))
    (tokens : List (Text × Token)) :
    read (({} : Progress).withColumns columns) (names.map columnToken ++ tokens) =
      read (({} : Progress).withColumns
        (columns ++ names.map fun name => (Request.giving .sketchColumn name).value)) tokens := by
  induction names generalizing columns with
  | nil => rw [List.map_nil, List.map_nil, List.nil_append, List.append_nil]
  | cons name rest ih =>
    have hStep : read (({} : Progress).withColumns columns)
        (columnToken name :: (rest.map columnToken ++ tokens)) =
        read (({} : Progress).withColumns
          (columns ++ [(Request.giving .sketchColumn name).value]))
          (rest.map columnToken ++ tokens) := by
      have hServe : (({} : Progress).withColumns columns).serve [.giving .sketchColumn name] =
          some (({} : Progress).withColumns
            (columns ++ [(Request.giving .sketchColumn name).value])) := by
        simp [Progress.serve, Progress.withColumns, Options.withColumns, Options.serve,
          Request.giving]
      rw [columnToken]
      simp only [read, Bundle.ofOption, Switch.takesValue, if_true, hServe]
    rw [List.map_cons, List.map_cons, List.cons_append, hStep, ih, List.append_assoc,
      List.singleton_append]

/-- Any names but the mark can be given, each by an argument of its own. -/
theorem ofList_columns {arguments : List Text} {invocation : Invocation} {names : List Text}
    (h : ofList arguments = .invocation invocation) (hMark : mark ∉ names) :
    ofList (names.map columnArgument ++ arguments) =
      .invocation (invocation.withColumns (names.map some)) := by
  have hValues : (names.map fun name => (Request.giving .sketchColumn name).value) =
      names.map some := by
    refine List.map_congr_left fun name hName => ?_
    have hName : name ≠ mark := fun hSame => hMark (hSame ▸ hName)
    rw [Request.giving, if_neg hName]
  rw [ofList] at h ⊢
  cases hTokens : Token.ofArguments arguments with
  | error fault =>
    rw [hTokens] at h
    cases h
  | ok tokens =>
    rw [hTokens] at h
    have hRead := read_columns names [] tokens
    rw [List.nil_append, hValues] at hRead
    rw [ofArguments_columns hTokens]
    refine hRead.trans ?_
    rw [read_withColumns]
    exact congrArg (withColumns · (names.map some)) h

end Arguments
end QueryPatch.CommandLine
