import RequestUploads.Text.Ascii

/-!
# Quoted strings

A string stands between quotation marks or apostrophes, one or three of them.  Between quotation
marks a backslash escapes.  `Quoted.read?` reads a string with a machine that goes one character
at a time; `Quoted.write` chooses the plainest form that holds a text.
-/

namespace RequestUploads.Toml.Quoted

/-! ## Reading -/

/-- How a string is quoted: with which mark, and whether with three of them, over several
lines. -/
structure Quoting where
  mark : Char
  long : Bool
deriving DecidableEq

/-- Where a reader stands: after some marks in a row; after a backslash; in the code of a
character, with digits left to read; after a backslash that skips blanks, before or after the end
of its line; after a carriage return. -/
inductive Mode
  | plain (marks : Nat)
  | escape
  | code (left value : Nat)
  | skip (ended : Bool)
  | carriage (skipping : Bool)
deriving DecidableEq

/-- What a character does to a reader: it goes on in a mode and puts out some text, or the string
is closed, by this character or just before it. -/
inductive Step
  | next (mode : Mode) (out : List Char)
  | closed (out : List Char)
  | closedBefore (out : List Char)

def isPlain (c : Char) : Bool := c = '\t' || (decide (0x20 ≤ c.toNat) && c.toNat ≠ 0x7F)

def escaped? (c : Char) : Option Char :=
  match c with
  | 'b' => some '\x08'
  | 't' => some '\t'
  | 'n' => some '\n'
  | 'f' => some '\x0c'
  | 'r' => some '\r'
  | '"' => some '"'
  | '\\' => some '\\'
  | _ => none

/-- A character that is neither a mark nor skipped; `before` are marks that turned out to be
text. -/
def plainStep (q : Quoting) (before : List Char) (c : Char) : Option Step :=
  if c = '\\' ∧ q.mark = '"' then some (.next .escape before)
  else if isPlain c then some (.next (.plain 0) (before ++ [c]))
  else if q.long ∧ c = '\n' then some (.next (.plain 0) (before ++ [c]))
  else if q.long ∧ c = '\r' then some (.next (.carriage false) before)
  else none

def markStep (q : Quoting) (marks : Nat) : Step :=
  if ¬q.long then .closed []
  else if marks = 4 then .closed [q.mark, q.mark]
  else .next (.plain (marks + 1)) []

def step (q : Quoting) (mode : Mode) (c : Char) : Option Step :=
  match mode with
  | .plain marks =>
      if c = q.mark then some (markStep q marks)
      else if 3 ≤ marks then some (.closedBefore (List.replicate (marks - 3) q.mark))
      else plainStep q (List.replicate marks q.mark) c
  | .escape =>
      match escaped? c with
      | some d => some (.next (.plain 0) [d])
      | none =>
          if c = 'u' then some (.next (.code 4 0) [])
          else if c = 'U' then some (.next (.code 8 0) [])
          else if q.long ∧ (c = ' ' ∨ c = '\t') then some (.next (.skip false) [])
          else if q.long ∧ c = '\n' then some (.next (.skip true) [])
          else if q.long ∧ c = '\r' then some (.next (.carriage true) [])
          else none
  | .code left value => do
      let digit ← Ascii.hexValue? c
      let value := 16 * value + digit
      if left = 1 then
        if value.isValidChar then some (.next (.plain 0) [Char.ofNat value]) else none
      else some (.next (.code (left - 1) value) [])
  | .skip ended =>
      if c = ' ' ∨ c = '\t' then some (.next (.skip ended) [])
      else if c = '\n' then some (.next (.skip true) [])
      else if c = '\r' then some (.next (.carriage true) [])
      else if ¬ended then none
      else if c = q.mark then some (markStep q 0)
      else plainStep q [] c
  | .carriage skipping =>
      if c ≠ '\n' then none
      else if skipping then some (.next (.skip true) [])
      else some (.next (.plain 0) ['\n'])

def run (q : Quoting) : Mode → List Char → Option (List Char × List Char)
  | mode, [] => match mode with
    | .plain marks =>
        if q.long ∧ 3 ≤ marks then some (List.replicate (marks - 3) q.mark, []) else none
    | _ => none
  | mode, c :: s => match step q mode c with
    | none => none
    | some (.closed out) => some (out, s)
    | some (.closedBefore out) => some (out, c :: s)
    | some (.next mode out) => (run q mode s).map fun (text, rest) => (out ++ text, rest)

def dropLineEnd : List Char → List Char
  | '\n' :: s => s
  | '\r' :: '\n' :: s => s
  | s => s

def between? (mark : Char) (s : List Char) : Option (List Char × List Char) :=
  if [mark, mark, mark].isPrefixOf s then run ⟨mark, true⟩ (.plain 0) (dropLineEnd (s.drop 3))
  else run ⟨mark, false⟩ (.plain 0) (s.drop 1)

def read? (s : List Char) : Option (List Char × List Char) :=
  match s.head? with
  | some '"' => between? '"' s
  | some '\'' => between? '\'' s
  | _ => none

def readShort? (s : List Char) : Option (List Char × List Char) :=
  match s with
  | '"' :: s => run ⟨'"', false⟩ (.plain 0) s
  | '\'' :: s => run ⟨'\'', false⟩ (.plain 0) s
  | _ => none

/-! ## Writing -/

/-- The length of the longest run of a character, of which `run` have just been seen. -/
def longestRun (c : Char) : (run : Nat) → List Char → Nat
  | run, [] => run
  | run, d :: s => if d = c then longestRun c (run + 1) s else max run (longestRun c 0 s)

def needsEscape (c : Char) : Bool := !isPlain c && c ≠ '\n'

def escape (c : Char) : List Char :=
  match c with
  | '\x08' => ['\\', 'b']
  | '\t' => ['\\', 't']
  | '\n' => ['\\', 'n']
  | '\x0c' => ['\\', 'f']
  | '\r' => ['\\', 'r']
  | '"' => ['\\', '"']
  | '\\' => ['\\', '\\']
  | c => ['\\', 'u', '0', '0', Ascii.capitalHexDigit (c.toNat / 16),
      Ascii.capitalHexDigit (c.toNat % 16)]

/-- Whether a character is escaped; over several lines, line feeds are not and quotation marks
only after two others. -/
def isEscaped (long : Bool) (marks : Nat) (c : Char) : Bool :=
  if c = '"' then !long || decide (2 ≤ marks)
  else if c = '\n' then !long
  else c = '\\' || c = '\t' || needsEscape c

def escapeText (long : Bool) : (marks : Nat) → List Char → List Char
  | _, [] => []
  | marks, c :: s =>
      if isEscaped long marks c then escape c ++ escapeText long 0 s
      else c :: escapeText long (if c = '"' then marks + 1 else 0) s

def basic (s : List Char) : List Char := '"' :: escapeText false 0 s ++ ['"']

def opening (s : List Char) : List Char := if s.contains '\n' then ['\n'] else []

def longBasic (s : List Char) : List Char :=
  ['"', '"', '"'] ++ opening s ++ escapeText true 0 s ++ ['"', '"', '"']

def literal (s : List Char) : List Char := '\'' :: s ++ ['\'']

def longLiteral (s : List Char) : List Char :=
  ['\'', '\'', '\''] ++ opening s ++ s ++ ['\'', '\'', '\'']

/-- A text in the first of these forms that holds it without escapes of what can be read as it is:
one line in quotation marks, one line in apostrophes, several lines of either; else with escapes
in quotation marks, over several lines if it has several. -/
def write (s : List Char) : List Char :=
  let control := s.any needsEscape
  let backslash := s.contains '\\'
  let several := s.contains '\n'
  let marks := longestRun '"' 0 s
  let apostrophes := longestRun '\'' 0 s
  if !control && !backslash && marks = 0 && !several then basic s
  else if !control && apostrophes = 0 && !several then literal s
  else if !control && !backslash && decide (marks ≤ 2) then longBasic s
  else if !control && decide (apostrophes ≤ 2) then longLiteral s
  else if several then longBasic s
  else basic s

end RequestUploads.Toml.Quoted
