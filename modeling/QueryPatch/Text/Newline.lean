import QueryPatch.Text.Basic

/-! # Line ends

A carriage return, alone or before a newline, is read as a newline.
-/
set_option autoImplicit false

namespace QueryPatch.Text

def unifyNewlines : Text → Text
  | '\r' :: '\n' :: rest => '\n' :: unifyNewlines rest
  | '\r' :: rest => '\n' :: unifyNewlines rest
  | c :: rest => c :: unifyNewlines rest
  | [] => []

theorem return_not_mem_unifyNewlines (text : Text) : '\r' ∉ unifyNewlines text := by
  fun_induction unifyNewlines text with
  | case1 rest ih => simpa using ih
  | case2 rest _ ih => simpa using ih
  | case3 c rest _ h ih =>
    simp only [List.mem_cons, not_or]
    exact ⟨fun hc => h hc.symm, ih⟩
  | case4 => simp

end QueryPatch.Text
