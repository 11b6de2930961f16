import LookupLog.Text.Basic

/-!
# Transcript templates

A template is the path of a transcript in which every placeholder stands for the identifier of a
run. Substitution goes once from left to right; what it inserts is not looked at again.
-/

namespace LookupLog.Template

/-- What stands for the identifier of a run. -/
def placeholder : Text := ['\x7b', 'k', '\x7d']

/-- The template of a program that was given none. -/
def standard : Text := "log_k\x7bk\x7d.txt".toList

/-- Contains a placeholder. -/
def hasPlaceholder : Text → Bool
  | '\x7b' :: 'k' :: '\x7d' :: _ => true
  | _ :: rest => hasPlaceholder rest
  | [] => false

/-- The template with the identifier of a run in place of every placeholder. -/
def fill (k : Text) : Text → Text
  | '\x7b' :: 'k' :: '\x7d' :: rest => k ++ fill k rest
  | c :: rest => c :: fill k rest
  | [] => []

end LookupLog.Template
