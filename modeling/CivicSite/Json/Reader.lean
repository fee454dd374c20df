import CivicSite.Json.Basic

/-!
# Reading JSON

The reader takes one code point at a time. A scanner makes tokens of them, a builder makes a
value of the tokens, and the first fault stops both: a malformed text, a whole number with more
digits than a numeral may have, or lists and objects that lie too deep in each other. Besides
the standard, the words `NaN`, `Infinity` and `-Infinity` are numbers. A repeated key keeps its
place and takes the last value. The escape of half a surrogate pair that has no other half
beside it is read as that half.
-/

namespace CivicSite.Json

/-- Why a text is not read. -/
inductive ReadError where
  | malformed
  | tooManyDigits (count : Nat)
  | tooDeep
deriving DecidableEq, Repr

/-! ## Tokens -/

/-- A token. A fault is a token too, so that it only counts when its turn comes. -/
inductive Token where
  | scalar (v : Json)
  | openList
  | closeList
  | openObject
  | closeObject
  | comma
  | colon
  | fault (e : ReadError)

/-- How far a numeral has got: the places where more may follow or must follow. -/
inductive NumeralPhase where
  | sign
  | zero
  | whole
  | point
  | fraction
  | mark
  | markSign
  | power
deriving DecidableEq, Repr

/-- What the scanner is in the middle of. What was read is kept in reverse; the first half of a
surrogate pair is kept apart until it is known whether the other half follows. -/
inductive Scan where
  | idle
  | string (read : Text)
  | escape (read : Text)
  | unit (read : Text) (high? : Option Nat) (left value : Nat)
  | half (read : Text) (high : Nat)
  | halfEscape (read : Text) (high : Nat)
  | numeral (read : List Char) (phase : NumeralPhase)
  | word (read : List Char)

/-- The value of a hexadecimal digit. -/
def hexValue? (c : Char) : Option Nat :=
  if c.isDigit then some (c.toNat - 48)
  else if 'a' ≤ c && c ≤ 'f' then some (c.toNat - 87)
  else if 'A' ≤ c && c ≤ 'F' then some (c.toNat - 55)
  else none

/-! ## Numerals -/

/-- The phase after one more character, if the numeral goes on. -/
def NumeralPhase.next? (p : NumeralPhase) (c : Char) : Option NumeralPhase :=
  match p with
  | sign => if c == '0' then some zero else if c.isDigit then some whole else none
  | zero => if c == '.' then some point else if c == 'e' || c == 'E' then some mark else none
  | whole =>
    if c.isDigit then some whole
    else if c == '.' then some point
    else if c == 'e' || c == 'E' then some mark
    else none
  | point => if c.isDigit then some fraction else none
  | fraction =>
    if c.isDigit then some fraction
    else if c == 'e' || c == 'E' then some mark
    else none
  | mark =>
    if c.isDigit then some power
    else if c == '+' || c == '-' then some markSign
    else none
  | markSign => if c.isDigit then some power else none
  | power => if c.isDigit then some power else none

def numeralToken (cs : List Char) : Token :=
  let (negative, cs) := Text.splitSign cs
  let (whole, rest) := Text.splitDigits cs
  match rest with
  | [] =>
    if Text.maxDigits < whole.length then .fault (.tooManyDigits whole.length)
    else
      let n := Nat.ofDigitChars 10 whole 0
      .scalar (.int (if negative then -n else n))
  | '.' :: more =>
    let (fraction, rest) := Text.splitDigits more
    .scalar (.double (Double.ofNumeral negative whole fraction ((Double.exponent? rest).getD 0)))
  | _ => .scalar (.double (Double.ofNumeral negative whole [] ((Double.exponent? rest).getD 0)))

/-- The tokens of a numeral that has ended. One that ended too early leaves the longest
numeral that it starts with, and a fault. -/
def numeralTokens (read : List Char) (phase : NumeralPhase) : List Token :=
  match phase with
  | .sign => [.fault .malformed]
  | .point | .mark => [numeralToken (read.drop 1).reverse, .fault .malformed]
  | .markSign => [numeralToken (read.drop 2).reverse, .fault .malformed]
  | _ => [numeralToken read.reverse]

def wordToken (read : List Char) : Token :=
  match String.ofList read.reverse with
  | "null" => .scalar .null
  | "true" => .scalar (.bool true)
  | "false" => .scalar (.bool false)
  | "NaN" => .scalar (.double .nan)
  | "Infinity" => .scalar (.double (.infinite false))
  | "-Infinity" => .scalar (.double (.infinite true))
  | _ => .fault .malformed

/-! ## The scanner -/

def startToken (c : Char) : Scan × List Token :=
  if c == ' ' || c == '\t' || c == '\n' || c == '\r' then (.idle, [])
  else if c == '"' then (.string [], [])
  else if c == '[' then (.idle, [.openList])
  else if c == ']' then (.idle, [.closeList])
  else if c == '\x7b' then (.idle, [.openObject])
  else if c == '\x7d' then (.idle, [.closeObject])
  else if c == ',' then (.idle, [.comma])
  else if c == ':' then (.idle, [.colon])
  else if c == '-' then (.numeral [c] .sign, [])
  else if c == '0' then (.numeral [c] .zero, [])
  else if c.isDigit then (.numeral [c] .whole, [])
  else if c.isAlpha then (.word [c], [])
  else (.idle, [.fault .malformed])

def afterBackslash (read : Text) (c : Char) : Scan × List Token :=
  if c == '"' || c == '\\' || c == '/' then (.string (c :: read), [])
  else if c == 'b' then (.string (.ofNat 8 :: read), [])
  else if c == 'f' then (.string (.ofNat 12 :: read), [])
  else if c == 'n' then (.string ('\n' :: read), [])
  else if c == 'r' then (.string ('\r' :: read), [])
  else if c == 't' then (.string ('\t' :: read), [])
  else if c == 'u' then (.unit read none 4 0, [])
  else (.idle, [.fault .malformed])

/-- What was read once a unit of four digits is complete, the one before it given if it was the
first half of a pair. -/
def afterUnit (read : Text) (high? : Option Nat) (n : Nat) : Scan :=
  match high? with
  | some high =>
    if 0xDC00 ≤ n && n ≤ 0xDFFF then
      .string (.ofNat (0x10000 + (high - 0xD800) * 0x400 + (n - 0xDC00)) :: read)
    else if 0xD800 ≤ n && n ≤ 0xDBFF then .half (.ofNat high :: read) n
    else .string (.ofNat n :: .ofNat high :: read)
  | none =>
    if 0xD800 ≤ n && n ≤ 0xDBFF then .half read n else .string (.ofNat n :: read)

def insideString (read : Text) (c : Char) : Scan × List Token :=
  if c == '"' then (.idle, [.scalar (.text read.reverse)])
  else if c == '\\' then (.escape read, [])
  else if c.toNat < 0x20 then (.idle, [.fault .malformed])
  else (.string (c :: read), [])

/-- The scanner after one more character, and the tokens that it completes. -/
def Scan.stepChar (s : Scan) (c : Char) : Scan × List Token :=
  match s with
  | idle => startToken c
  | string read => insideString read c
  | escape read => afterBackslash read c
  | unit read high? left value =>
    match hexValue? c with
    | some d =>
      let value := value * 16 + d
      if left ≤ 1 then (afterUnit read high? value, []) else (.unit read high? (left - 1) value, [])
    | none => (.idle, [.fault .malformed])
  | half read high =>
    if c == '\\' then (.halfEscape read high, []) else insideString (.ofNat high :: read) c
  | halfEscape read high =>
    if c == 'u' then (.unit read (some high) 4 0, []) else afterBackslash (.ofNat high :: read) c
  | numeral read phase =>
    match phase.next? c with
    | some p => (.numeral (c :: read) p, [])
    | none =>
      if phase == .sign && c == 'I' then (.word (c :: read), [])
      else
        let (s, tokens) := startToken c
        (s, numeralTokens read phase ++ tokens)
  | word read =>
    if c.isAlpha then (.word (c :: read), [])
    else
      let (s, tokens) := startToken c
      (s, wordToken read :: tokens)

/-- The scanner after half a pair that stands alone, which only a string may hold. -/
def Scan.stepLone (s : Scan) (c : CodePoint) : Scan × List Token :=
  match s with
  | string read => (.string (c :: read), [])
  | half read high => (.string (c :: .ofNat high :: read), [])
  | numeral read phase => (.idle, numeralTokens read phase ++ [.fault .malformed])
  | word read => (.idle, [wordToken read, .fault .malformed])
  | _ => (.idle, [.fault .malformed])

/-- The scanner after one more code point, and the tokens that it completes. -/
def Scan.step (s : Scan) : CodePoint → Scan × List Token
  | .char c => s.stepChar c
  | c@(.lone _) => s.stepLone c

/-- The tokens that the end of the text completes. -/
def Scan.finish : Scan → List Token
  | idle => []
  | numeral read phase => numeralTokens read phase
  | word read => [wordToken read]
  | _ => [.fault .malformed]

/-! ## The builder -/

/-- A list or object that is still open. A member is an object with the key of the value to
come. Items are kept in reverse. -/
inductive Frame where
  | list (items : List Json)
  | object (entries : List (Text × Json))
  | member (entries : List (Text × Json)) (key : Text)

/-- What the builder waits for. -/
inductive Await where
  | value
  | firstItem
  | key
  | firstKey
  | colon (key : Text)
  | next
  | nothing (v : Json)

/-- How many lists and objects may be open at a time. -/
def maxDepth : Nat := 985

/-- What the builder waits for, and what is open around it, innermost first. -/
structure Builder where
  await : Await
  frames : List Frame

namespace Builder

/-- A builder that has seen nothing. -/
def start : Builder := ⟨.value, []⟩

/-- Puts a complete value where it belongs. -/
def deliver (v : Json) : List Frame → Except ReadError Builder
  | [] => .ok ⟨.nothing v, []⟩
  | .list items :: rest => .ok ⟨.next, .list (v :: items) :: rest⟩
  | .member entries key :: rest => .ok ⟨.next, .object (Entries.put entries key v) :: rest⟩
  | .object _ :: _ => .error .malformed

/-- Opens a list or an object. -/
def enter (b : Builder) (await : Await) (f : Frame) : Except ReadError Builder :=
  if b.frames.length < maxDepth then .ok ⟨await, f :: b.frames⟩ else .error .tooDeep

def takeValue (b : Builder) : Token → Except ReadError Builder
  | .scalar v => deliver v b.frames
  | .openList => b.enter .firstItem (.list [])
  | .openObject => b.enter .firstKey (.object [])
  | .fault e => .error e
  | _ => .error .malformed

def takeKey (b : Builder) : Token → Except ReadError Builder
  | .scalar (.text k) => .ok ⟨.colon k, b.frames⟩
  | _ => .error .malformed

/-- Closes the innermost list or object. -/
def close (b : Builder) (t : Token) : Except ReadError Builder :=
  match t, b.frames with
  | .closeList, .list items :: rest => deliver (.list items.reverse) rest
  | .closeObject, .object entries :: rest => deliver (.object entries) rest
  | _, _ => .error .malformed

def push (b : Builder) (t : Token) : Except ReadError Builder :=
  match b.await, t with
  | .value, t => b.takeValue t
  | .firstItem, .closeList => b.close t
  | .firstItem, t => b.takeValue t
  | .key, t => b.takeKey t
  | .firstKey, .closeObject => b.close t
  | .firstKey, t => b.takeKey t
  | .colon key, .colon =>
    match b.frames with
    | .object entries :: rest => .ok ⟨.value, .member entries key :: rest⟩
    | _ => .error .malformed
  | .next, .comma =>
    match b.frames with
    | .list _ :: _ => .ok ⟨.value, b.frames⟩
    | .object _ :: _ => .ok ⟨.key, b.frames⟩
    | _ => .error .malformed
  | .next, t => b.close t
  | _, _ => .error .malformed

/-- The value, once it is complete. -/
def value? (b : Builder) : Except ReadError Json :=
  match b.await with
  | .nothing v => .ok v
  | _ => .error .malformed

end Builder

/-! ## The reader -/

/-- A scanner and a builder, until the first fault. -/
abbrev Reader := Except ReadError (Scan × Builder)

def Reader.feed (r : Reader) (c : CodePoint) : Reader := do
  let (scan, builder) ← r
  let (scan, tokens) := scan.step c
  return (scan, ← tokens.foldlM Builder.push builder)

def read (s : Text) : Except ReadError Json := do
  let (scan, builder) ← s.foldl Reader.feed (.ok (.idle, .start))
  (← scan.finish.foldlM Builder.push builder).value?

end CivicSite.Json
