import GuildRoles.Text.Hidden

/-!
# Quoted text in listings

Listings of names (the dry-run report, error messages about a text) show each text between double
quotes. Inside the quotes a quote and a backslash get a backslash, tab, carriage return, line feed
and NUL have their short escapes, and characters that would not show as themselves (`isHidden`)
are written as `\u{hex}` with lowercase digits.
-/

namespace GuildRoles.Text

/-- Lowercase hexadecimal digits of a number, most significant first, at least one digit. -/
def hexDigits (n : Nat) : List Char :=
  (Nat.toDigits 16 n).map Char.toLower

/-- The characters that stand for `c` inside a quoted text. -/
def quoteChar (c : Char) : List Char :=
  match c with
  | '"' => ['\\', '"']
  | '\\' => ['\\', '\\']
  | '\t' => ['\\', 't']
  | '\r' => ['\\', 'r']
  | '\n' => ['\\', 'n']
  | '\x00' => ['\\', '0']
  | c => if isHidden c then ['\\', 'u', '{'] ++ hexDigits c.toNat ++ ['}'] else [c]

/-- A text between double quotes, with the escapes above. -/
def quote (s : String) : String :=
  String.ofList ('"' :: (s.toList.flatMap quoteChar ++ ['"']))

example : quote "a\"b" = "\"a\\\"b\"" := by decide
example : quote "\u200b" = "\"\\u\x7b200b\x7d\"" := by decide +kernel

end GuildRoles.Text
