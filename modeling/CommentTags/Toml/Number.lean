import CommentTags.Toml.Quoted

/-!
Numbers and dates as they are written without quotes.
-/
namespace CommentTags.Toml

def digitValue? (base : Nat) (c : Char) : Option Nat :=
  (hexValue? c).filter (· < base)

/-- Digits that go on a number; one underscore may stand between two of them. -/
def moreDigits? (base value : Nat) : Text → Option Nat
  | [] => some value
  | '_' :: c :: t => do moreDigits? base (value * base + (← digitValue? base c)) t
  | c :: t => do moreDigits? base (value * base + (← digitValue? base c)) t

/-- A number in a base, leading zeros allowed. -/
def digits? (base : Nat) : Text → Option Nat
  | [] => none
  | c :: t => do moreDigits? base (← digitValue? base c) t

/-- A decimal number without leading zeros. -/
def natural? : Text → Option Nat
  | ['0'] => some 0
  | '0' :: _ => none
  | t => digits? 10 t

/-- The sign, if any, and what follows it. -/
def splitSign : Text → Bool × Text
  | '-' :: t => (true, t)
  | '+' :: t => (false, t)
  | t => (false, t)

/-- Whole numbers have 64 bits. -/
def fits (i : Int) : Bool := Int64.minValue.toInt ≤ i && i ≤ Int64.maxValue.toInt

def integer? (t : Text) : Option Int :=
  let value : Option Int :=
    match t with
    | '0' :: 'x' :: ds => (digits? 16 ds).map Int.ofNat
    | '0' :: 'o' :: ds => (digits? 8 ds).map Int.ofNat
    | '0' :: 'b' :: ds => (digits? 2 ds).map Int.ofNat
    | t =>
      let (negative, ds) := splitSign t
      (natural? ds).map fun n => if negative then -(n : Int) else n
  value.filter fits

/-- The least number that is nearer to the next power of two than to any finite one. -/
def overflow : Nat := ((1 <<< 54) - 1) <<< 970

/-- The decimal `value` with its point moved left by `places` and right by `exponent` is within
what a number can be; negative ones are not checked. -/
def isFinite (value places : Nat) (exponent : Int) : Bool :=
  let shift := exponent - places
  let size := (Nat.toDigits 10 value).length + shift
  value = 0 || size < 309 ||
    size = 309 && (if 0 ≤ shift then value * Nat.pow 10 shift.toNat < overflow
      else value < overflow * Nat.pow 10 (-shift).toNat)

/-- A number with a fraction or an exponent, or a special one. -/
def isFloat (t : Text) : Bool :=
  let (negative, body) := splitSign t
  if body = "inf".toList ∨ body = "nan".toList then true
  else
    let isExponentMark (c : Char) : Bool := c = 'e' || c = 'E'
    let mantissa := body.takeWhile fun c => !isExponentMark c
    let exponent : Option Int :=
      match body.dropWhile fun c => !isExponentMark c with
      | [] => some 0
      | _ :: e =>
        let (down, ds) := splitSign e
        (digits? 10 ds).map fun n => if down then -(n : Int) else n
    let whole := mantissa.takeWhile (· ≠ '.')
    let fraction : Option Text :=
      match mantissa.dropWhile (· ≠ '.') with
      | [] => if mantissa.length < body.length then some [] else none
      | _ :: ds => if (digits? 10 ds).isSome then some (ds.filter (· ≠ '_')) else none
    match natural? whole, fraction, exponent with
    | some w, some ds, some e =>
      let value := (moreDigits? 10 w ds).getD 0
      negative || isFinite value ds.length e
    | _, _, _ => false

/-! Dates and times. -/

/-- A number of exactly so many digits, and what follows it. -/
def fixed? : Nat → Text → Option (Nat × Text)
  | 0, t => some (0, t)
  | n + 1, t => do
    let (value, rest) ← fixed? n t
    match rest with
    | c :: rest => return (value * 10 + (← digitValue? 10 c), rest)
    | [] => none

def expect? (c : Char) : Text → Option Text
  | d :: t => if d = c then some t else none
  | [] => none

def daysIn (year month : Nat) : Nat :=
  if month = 2 then
    if year % 4 = 0 ∧ (year % 100 ≠ 0 ∨ year % 400 = 0) then 29 else 28
  else if month = 4 ∨ month = 6 ∨ month = 9 ∨ month = 11 then 30
  else 31

def dropDate? (t : Text) : Option Text := do
  let (year, t) ← fixed? 4 t
  let (month, t) ← fixed? 2 (← expect? '-' t)
  let (day, t) ← fixed? 2 (← expect? '-' t)
  if 1 ≤ month ∧ month ≤ 12 ∧ 1 ≤ day ∧ day ≤ daysIn year month then some t else none

def dropHourMinute? (t : Text) : Option Text := do
  let (hour, t) ← fixed? 2 t
  let (minute, t) ← fixed? 2 (← expect? ':' t)
  if hour ≤ 23 ∧ minute ≤ 59 then some t else none

def dropTime? (t : Text) : Option Text := do
  let (second, t) ← fixed? 2 (← expect? ':' (← dropHourMinute? t))
  if 60 < second then none
  match t with
  | '.' :: f =>
    let rest := f.dropWhile Char.isDigit
    if rest.length < f.length then some rest else none
  | t => some t

/-- Nothing more, or the distance from universal time. -/
def isZone (t : Text) : Bool :=
  match t with
  | [] => true
  | [c] => c = 'Z' || c = 'z'
  | c :: t => (c = '+' || c = '-') && dropHourMinute? t == some []

def isTime (t : Text) : Bool := dropTime? t == some []

/-- A time with or without its zone. -/
def isZonedTime (t : Text) : Bool :=
  match dropTime? t with
  | some rest => isZone rest
  | none => false

def isDate (t : Text) : Bool := dropDate? t == some []

def isDateTime (t : Text) : Bool :=
  match dropDate? t with
  | some [] => true
  | some (c :: rest) => (c = 'T' || c = 't') && isZonedTime rest
  | none => isTime t

end CommentTags.Toml
