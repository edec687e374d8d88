import ParamSchema.Toml.Text

/-!
# Writing strings in TOML

A string is written in the first of these ways that can hold it: in double
quotes without escapes, in single quotes, in three double or single quotes,
and with escapes.
-/

set_option autoImplicit false

namespace ParamSchema.Toml

def longestRun (c : Char) (current longest : Nat) : List Char → Nat
  | [] => max current longest
  | d :: rest =>
    if d = c then longestRun c (current + 1) longest rest
    else longestRun c 0 (max current longest) rest

def hexDigits4 (n : Nat) : List Char :=
  [n / 4096, n / 256, n / 16, n].map fun d =>
    let digit := d % 16
    if digit < 10 then Char.ofNat (48 + digit) else Char.ofNat (55 + digit)

def escapeChar (lines : Bool) (c : Char) : List Char :=
  match c with
  | '"' => ['\\', '"']
  | '\\' => ['\\', '\\']
  | '\x08' => ['\\', 'b']
  | '\t' => ['\\', 't']
  | '\n' => if lines then ['\n'] else ['\\', 'n']
  | '\x0c' => ['\\', 'f']
  | '\r' => ['\\', 'r']
  | c => if isControl c then '\\' :: 'u' :: hexDigits4 c.toNat else [c]

def quote (text : String) : String :=
  let chars := text.toList
  let lines := chars.contains '\n'
  let controls := chars.any fun c => isControl c && c != '\n'
  let doubles := longestRun '"' 0 0 chars
  let singles := longestRun '\'' 0 0 chars
  let start := if lines then "\n" else ""
  let escaped := String.ofList (chars.flatMap (escapeChar lines))
  if !controls && !lines && !chars.contains '\\' && doubles == 0 then "\"" ++ text ++ "\""
  else if !controls && !lines && singles == 0 then "'" ++ text ++ "'"
  else if !controls && !chars.contains '\\' && decide (doubles ≤ 2) then
    "\"\"\"" ++ start ++ text ++ "\"\"\""
  else if !controls && decide (singles ≤ 2) then "'''" ++ start ++ text ++ "'''"
  else if lines then "\"\"\"" ++ start ++ escaped ++ "\"\"\""
  else "\"" ++ escaped ++ "\""

end ParamSchema.Toml
