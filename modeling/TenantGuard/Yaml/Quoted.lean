import TenantGuard.Yaml.Folding

/-!
# Quoted scalars

Between single quotes only the quote itself is special: it is written twice.
Between double quotes a backslash begins an escape, and a backslash at the end
of a line joins the next line without a space.
-/

namespace TenantGuard.Yaml.QuotedScalar

def shortEscape? : Char → Option Char
  | '0' => some '\x00'
  | 'a' => some '\x07'
  | 'b' => some '\x08'
  | 't' | '\t' => some '\t'
  | 'n' => some '\n'
  | 'v' => some '\x0b'
  | 'f' => some '\x0c'
  | 'r' => some '\r'
  | 'e' => some '\x1b'
  | ' ' => some ' '
  | '"' => some '"'
  | '/' => some '/'
  | '\\' => some '\\'
  | 'N' => some '\u0085'
  | '_' => some '\u00a0'
  | 'L' => some '\u2028'
  | 'P' => some '\u2029'
  | _ => none

/-- How many hexadecimal digits follow the letter of a numeric escape. -/
def codeWidth? : Char → Option Nat
  | 'x' => some 2
  | 'u' => some 4
  | 'U' => some 8
  | _ => none

/-- The character whose code is written with exactly `width` digits. -/
def coded? (width : Nat) (digits : List Char) : Option Char := do
  let values ← digits.mapM hexDigit?
  let code := values.foldl (fun code digit => 16 * code + digit) 0
  if values.length = width && code.isValidChar then some (Char.ofNat code) else none

/-- Read on between double quotes, after `written`, whose last character comes
first, and a gap. -/
def readDouble (written : List Char) (gap : Gap) (position : Position) (text : List Char) :
    Reading (String × Cursor) :=
  match text with
  | [] => .error .unclosedQuote
  | c :: rest =>
      if isMarker position (c :: rest) then
        .error .markerInQuotes
      else if isSpacing c then
        readDouble written (gap.space c) (position.next 1) rest
      else if isBreak c then
        readDouble written (gap.line c) position.nextLine rest
      else
        let written := gap.folded ++ written
        if c = '"' then
          .ok (String.ofList written.reverse, ⟨position.next 1, rest⟩)
        else if c = '\\' then
          match rest with
          | [] => .error .unknownEscape
          | letter :: rest =>
              if isBreak letter then
                readDouble written Gap.escapedLine position.nextLine rest
              else
                match shortEscape? letter, codeWidth? letter with
                | some escaped, _ => readDouble (escaped :: written) {} (position.next 2) rest
                | none, some width =>
                    match coded? width (rest.take width) with
                    | some escaped =>
                        readDouble (escaped :: written) {} (position.next (2 + width))
                          (rest.drop width)
                    | none => .error .unknownEscape
                | none, none => .error .unknownEscape
        else
          readDouble (c :: written) {} (position.next 1) rest
termination_by text.length
decreasing_by all_goals simp_wf <;> omega

def readSingle (written : List Char) (gap : Gap) (position : Position) :
    List Char → Reading (String × Cursor)
  | [] => .error .unclosedQuote
  | '\'' :: '\'' :: rest =>
      readSingle ('\'' :: gap.folded ++ written) {} (position.next 2) rest
  | c :: rest =>
      if isMarker position (c :: rest) then
        .error .markerInQuotes
      else if isSpacing c then
        readSingle written (gap.space c) (position.next 1) rest
      else if isBreak c then
        readSingle written (gap.line c) position.nextLine rest
      else
        let written := gap.folded ++ written
        if c = '\'' then
          .ok (String.ofList written.reverse, ⟨position.next 1, rest⟩)
        else
          readSingle (c :: written) {} (position.next 1) rest

def read (double : Bool) (cursor : Cursor) : Reading (String × Cursor) :=
  if double then readDouble [] {} cursor.position cursor.rest
  else readSingle [] {} cursor.position cursor.rest

end TenantGuard.Yaml.QuotedScalar
