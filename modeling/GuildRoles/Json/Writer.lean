import GuildRoles.Json.Value

/-!
# Values to JSON text

Writing a value compactly (no blanks) or pretty (each item and entry on a line of its own,
indented by two spaces per level, `": "` after keys, empty lists and objects as `[]` and `{}`).
Entries are written in the order the object holds them. In strings a quote, a backslash and the
control characters are escaped, the latter as `\b`, `\f`, `\n`, `\r`, `\t` or `\u00xx`; all
other characters are written as they are.
-/

namespace GuildRoles.Json

/-- Two lowercase hexadecimal digits of a byte-sized number. -/
def hex2 (n : Nat) : List Char :=
  let d (k : Nat) : Char := if k < 10 then Char.ofNat (48 + k) else Char.ofNat (87 + k)
  [d (n / 16 % 16), d (n % 16)]

/-- The characters that stand for `c` inside a JSON string. -/
def escapeChar (c : Char) : List Char :=
  match c with
  | '"' => ['\\', '"']
  | '\\' => ['\\', '\\']
  | '\n' => ['\\', 'n']
  | '\r' => ['\\', 'r']
  | '\t' => ['\\', 't']
  | c =>
    if c.toNat = 8 then ['\\', 'b']
    else if c.toNat = 12 then ['\\', 'f']
    else if c.toNat < 32 then ['\\', 'u', '0', '0'] ++ hex2 c.toNat
    else [c]

/-- A JSON string literal. -/
def stringLiteral (s : String) : String :=
  String.ofList ('"' :: (s.toList.flatMap escapeChar ++ ['"']))

/-- The text of a number. -/
def Number.text : Number → String
  | .nat n => toString n
  | .neg n => toString n
  | .float x => x.text

namespace Value

/-- The compact text of a value. -/
def compact : Value → String
  | .null => "null"
  | .bool b => if b then "true" else "false"
  | .num n => n.text
  | .str s => stringLiteral s
  | .arr items => "[" ++ ",".intercalate (items.attach.map fun ⟨v, _⟩ => compact v) ++ "]"
  | .obj entries =>
    "\x7b" ++ ",".intercalate (entries.attach.map fun ⟨(k, v), _⟩ =>
      stringLiteral k ++ ":" ++ compact v) ++ "\x7d"
termination_by v => sizeOf v
decreasing_by
  all_goals simp_wf
  · have := List.sizeOf_lt_of_mem ‹_›; omega
  · have := List.sizeOf_lt_of_mem ‹_›; simp at this; omega

/-- The lines of a pretty text of a value at an indentation level; the first line carries no
indentation of its own. -/
def prettyLines (level : Nat) : Value → List String
  | .arr [] => ["[]"]
  | .obj [] => ["\x7b\x7d"]
  | .arr items =>
    let pad := String.ofList (List.replicate (2 * (level + 1)) ' ')
    let blocks := items.attach.map fun ⟨v, _⟩ => prettyLines (level + 1) v
    ["["] ++ joinBlocks pad blocks ++ [String.ofList (List.replicate (2 * level) ' ') ++ "]"]
  | .obj entries =>
    let pad := String.ofList (List.replicate (2 * (level + 1)) ' ')
    let blocks := entries.attach.map fun ⟨(k, v), _⟩ =>
      match prettyLines (level + 1) v with
      | [] => [stringLiteral k ++ ": "]
      | l :: ls => (stringLiteral k ++ ": " ++ l) :: ls
    let close := String.ofList (List.replicate (2 * level) ' ') ++ "\x7d"
    ["\x7b"] ++ joinBlocks pad blocks ++ [close]
  | v => [v.compact]
termination_by v => sizeOf v
decreasing_by
  all_goals simp_wf
  · have := List.sizeOf_lt_of_mem ‹_›; omega
  · have := List.sizeOf_lt_of_mem ‹_›; simp at this; omega
where
  /-- Indents the blocks of the items and puts a comma after each block but the last. -/
  joinBlocks (pad : String) : List (List String) → List String
    | [] => []
    | [b] => indentBlock pad b
    | b :: rest => withComma (indentBlock pad b) ++ joinBlocks pad rest
  /-- Indents the first line of a block by `pad`; nested lines carry their own indentation. -/
  indentBlock (pad : String) : List String → List String
    | [] => []
    | l :: ls => (pad ++ l) :: ls
  /-- Puts a comma after the last line of a block. -/
  withComma : List String → List String
    | [] => [","]
    | [l] => [l ++ ","]
    | l :: ls => l :: withComma ls

/-- The pretty text of a value, lines joined by line feeds. -/
def pretty (v : Value) : String := "\n".intercalate (prettyLines 0 v)

end Value

end GuildRoles.Json
