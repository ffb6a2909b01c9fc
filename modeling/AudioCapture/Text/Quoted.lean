import AudioCapture.Text.Unseen

/-!
# Quoted text

A text between double quotes in which a reader can see every character: short escapes for the
usual controls, `\u` and the number in braces for what has no visible form.

* `escape_plain`: a visible character other than a quote or a backslash stands for itself.
-/

namespace AudioCapture.Text

/-- The number of a code point in lower-case hexadecimal. -/
def hexNumber (point : Nat) : List Char :=
  Nat.toDigits 16 point

def byNumber (c : Char) : List Char :=
  '\\' :: 'u' :: '\x7b' :: hexNumber c.toNat ++ ['\x7d']

def escape (c : Char) : List Char :=
  if c = '\x00' then ['\\', '0']
  else if c = '\t' then ['\\', 't']
  else if c = '\n' then ['\\', 'n']
  else if c = '\r' then ['\\', 'r']
  else if c = '\\' then ['\\', '\\']
  else if c = '"' then ['\\', '"']
  else if isUnseen c then byNumber c
  else [c]

def quoted (text : String) : String :=
  String.ofList ('"' :: text.toList.flatMap escape ++ ['"'])

theorem escape_plain {c : Char} (seen : isUnseen c = false) (noQuote : c ≠ '"')
    (noSlash : c ≠ '\\') : escape c = [c] := by
  have visible : ¬ c.toNat < 0x20 := by
    intro control
    simp [isUnseen_of_isControl control] at seen
  unfold escape
  split
  · subst_vars; exact absurd (by decide) visible
  split
  · subst_vars; exact absurd (by decide) visible
  split
  · subst_vars; exact absurd (by decide) visible
  split
  · subst_vars; exact absurd (by decide) visible
  simp [seen]

end AudioCapture.Text
