import TnsClient.Text.Shown

set_option autoImplicit false

/-!
# Outlines of values

Diagnostics show a value on one line: text in quotes, a record by its name and its fields, an
optional value by `None` or `Some(..)`, a list in brackets.

## Main definitions

* `TnsClient.Text.quote` — a text in double quotes.
* `TnsClient.Text.outline`, `TnsClient.Text.outlinePart` — a record with all, or with some of its
  fields.
* `TnsClient.Text.optional`, `TnsClient.Text.bracketed` — optional values and lists.
-/

namespace TnsClient.Text

/-- A character as it stands inside quotes. -/
def quoteChar (c : Char) : String :=
  match c with
  | '\x00' => "\\0"
  | '\t' => "\\t"
  | '\r' => "\\r"
  | '\n' => "\\n"
  | '"' => "\\\""
  | '\\' => "\\\\"
  | c =>
    if isShown c then c.toString
    else "\\u\x7b" ++ String.ofList (Nat.toDigits 16 c.toNat) ++ "\x7d"

/-- A text in double quotes. -/
def quote (text : String) : String :=
  "\"" ++ String.join (text.toList.map quoteChar) ++ "\""

/-- The fields of a record, by name, each with its shown value. -/
abbrev Fields := List (String × String)

/-- The text of fields, separated by commas. -/
def Fields.text (fields : Fields) : String :=
  String.intercalate ", " (fields.map fun (name, value) => name ++ ": " ++ value)

/-- A record with all its fields. -/
def outline (name : String) (fields : Fields) : String :=
  name ++ " \x7b " ++ fields.text ++ " \x7d"

/-- A record of which only some fields are shown. -/
def outlinePart (name : String) (fields : Fields) : String :=
  name ++ " \x7b " ++ fields.text ++ ", .. \x7d"

/-- An optional value whose shown form is given. -/
def optional : Option String → String
  | none => "None"
  | some value => "Some(" ++ value ++ ")"

/-- A list of shown values. -/
def bracketed (values : List String) : String :=
  "[" ++ String.intercalate ", " values ++ "]"

/-- A truth value. -/
def truth (value : Bool) : String := if value then "true" else "false"

end TnsClient.Text
