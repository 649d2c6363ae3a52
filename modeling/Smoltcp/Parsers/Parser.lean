import Smoltcp.Wire.Outcome

/-!
# Parsing numbers from text

A parser reads the octets of a text from the front. It fails with an error, which leaves the octets
as they were where another way to read them is tried. A number is read as far as there are digits,
up to as many as it may have.
-/

namespace Smoltcp

open Outcome

/-- A parser takes the octets that are left to read, and returns what is left behind it. -/
abbrev Parser := StateT (List UInt8) Outcome

namespace Parser

variable {α β : Type}

/-- `Err(())`. -/
def err : Parser α := fun _ => fail

/-- A computation that does not read. -/
def lift (x : Outcome α) : Parser α := fun data => do return (← x, data)

def lookaheadChar (ch : UInt8) : Parser Bool := fun data => .ok (data.head? = some ch, data)

def advance : Parser UInt8
  | [] => fail
  | chr :: data => .ok (chr, data)

/-- Nothing is read if the parser fails. -/
def tryDo (f : Parser α) : Parser (Option α) := fun data =>
  match f data with
  | .ok (res, rest) => .ok (some res, rest)
  | .error .malformed => .ok (none, data)
  | .error (.panic p) => .error (.panic p)

def acceptEof : Parser Unit := fun data => do
  reject (data ≠ [])
  return ((), data)

/-- `until_eof`, for the whole of a text. -/
def untilEof (f : Parser α) (text : List UInt8) : Outcome α := do
  let (res, rest) ← f text
  let _ ← acceptEof rest
  return res

def acceptChar (chr : UInt8) : Parser Unit := do
  if (← advance) = chr then return () else err

def acceptStr : List UInt8 → Parser Unit
  | [] => return ()
  | byte :: string => do
    acceptChar byte
    acceptStr string

def isAsciiDigit (chr : UInt8) : Prop := 48 ≤ chr ∧ chr ≤ 57

instance (chr : UInt8) : Decidable (isAsciiDigit chr) := inferInstanceAs (Decidable (_ ∧ _))

/-- The value of a digit, if it is one. -/
def digit (hex : Bool) (chr : UInt8) : Option ℕ :=
  if isAsciiDigit chr then some (chr - 48).toNat
  else if hex ∧ 97 ≤ chr ∧ chr ≤ 102 then some (chr - 97 + 10).toNat
  else if hex ∧ 65 ≤ chr ∧ chr ≤ 70 then some (chr - 65 + 10).toNat
  else none

def acceptDigit (hex : Bool) : Parser ℕ := do
  match digit hex (← advance) with
  | some value => return value
  | none => err

def base (hex : Bool) : ℕ := if hex then 16 else 10

/-- The loop over the digits behind the first one. -/
def acceptDigits (hex : Bool) : ℕ → ℕ → Parser ℕ
  | 0, value => return value
  | n + 1, value => do
    match ← tryDo (acceptDigit hex) with
    | some digit => acceptDigits hex n (value * base hex + digit)
    | none => return value

def acceptNumber (maxDigits maxValue : ℕ) (hex : Bool) : Parser ℕ := do
  let value ← acceptDigit hex
  let value ← acceptDigits hex (maxDigits - 1) value
  if value < maxValue then return value else err

/-! ### What a parser returns -/

variable {f : Parser α} {data rest : List UInt8} {a : α}

lemma bind_apply (f : Parser α) (g : α → Parser β) (data : List UInt8) :
    (f >>= g) data = f data >>= fun r => g r.1 r.2 := rfl

lemma bind_of_eq {g : α → Parser β} (h : f data = .ok (a, rest)) : (f >>= g) data = g a rest := by
  rw [bind_apply, h, ok_bind]

lemma bind_of_fail {g : α → Parser β} (h : f data = fail) : (f >>= g) data = fail := by
  rw [bind_apply, h]
  rfl

lemma bind_eq_ok {g : α → Parser β} {r : β × List UInt8} :
    (f >>= g) data = .ok r ↔ ∃ a rest, f data = .ok (a, rest) ∧ g a rest = .ok r := by
  rw [bind_apply, Outcome.bind_eq_ok, Prod.exists]

/-- The parser returns or fails, but does not panic. -/
def Quiet (f : Parser α) : Prop := ∀ data, (∃ a rest, f data = .ok (a, rest)) ∨ f data = fail

lemma quiet_pure (a : α) : Quiet (pure a : Parser α) := fun data => .inl ⟨a, data, rfl⟩

lemma quiet_err : Quiet (err : Parser α) := fun _ => .inr rfl

lemma Quiet.bind {g : α → Parser β} (hf : Quiet f) (hg : ∀ a, Quiet (g a)) : Quiet (f >>= g) := by
  intro data
  obtain ⟨a, rest, h⟩ | h := hf data
  · rw [bind_of_eq h]
    exact hg a rest
  · exact .inr (bind_of_fail h)

lemma quiet_advance : Quiet advance
  | [] => .inr rfl
  | chr :: data => .inl ⟨chr, data, rfl⟩

lemma tryDo_of_eq (h : f data = .ok (a, rest)) : tryDo f data = .ok (some a, rest) := by
  rw [tryDo, h]

lemma tryDo_of_fail (h : f data = fail) : tryDo f data = .ok (none, data) := by
  rw [tryDo, h]
  rfl

lemma tryDo_eq_ok {r : Option α} (h : tryDo f data = .ok (r, rest)) :
    (∃ a, r = some a ∧ f data = .ok (a, rest)) ∨ r = none ∧ rest = data ∧ f data = fail := by
  unfold tryDo at h
  split at h
  · next a rest' hf =>
    cases h
    exact .inl ⟨a, rfl, hf⟩
  · next hf =>
    cases h
    exact .inr ⟨rfl, rfl, hf⟩
  · cases h

lemma Quiet.tryDo (h : Quiet f) : Quiet (tryDo f) := by
  intro data
  obtain ⟨a, rest, h⟩ | h := h data
  · exact .inl ⟨_, _, tryDo_of_eq h⟩
  · exact .inl ⟨_, _, tryDo_of_fail h⟩

lemma untilEof_eq_ok {text : List UInt8} : untilEof f text = .ok a ↔ f text = .ok (a, []) := by
  rw [untilEof, Outcome.bind_eq_ok, Prod.exists]
  constructor
  · rintro ⟨res, rest, hf, h⟩
    obtain ⟨r, heof, h⟩ := Outcome.bind_eq_ok.mp h
    cases h
    obtain ⟨⟨⟩, hreject, -⟩ := Outcome.bind_eq_ok.mp heof
    rw [reject_eq_ok, not_ne_iff] at hreject
    rw [hf, hreject]
  · intro h
    exact ⟨a, [], h, rfl⟩

lemma acceptChar_cons (chr c : UInt8) (data : List UInt8) :
    acceptChar chr (c :: data) = if c = chr then .ok ((), data) else fail := by
  change (if c = chr then pure () else err : Parser Unit) data = _
  split_ifs <;> rfl

lemma acceptChar_of (chr : UInt8) (rest : List UInt8) :
    acceptChar chr (chr :: rest) = .ok ((), rest) := by
  rw [acceptChar_cons, if_pos rfl]

lemma acceptChar_eq_ok {chr : UInt8} {r : Unit} (h : acceptChar chr data = .ok (r, rest)) :
    data = chr :: rest := by
  cases data with
  | nil => cases h
  | cons c data =>
    rw [acceptChar_cons] at h
    split_ifs at h with hc
    · cases h
      rw [hc]
    · cases h

lemma quiet_acceptChar (chr : UInt8) : Quiet (acceptChar chr) := by
  refine quiet_advance.bind fun c => ?_
  split_ifs
  · exact quiet_pure ()
  · exact quiet_err

lemma quiet_acceptStr (string : List UInt8) : Quiet (acceptStr string) := by
  induction string with
  | nil => exact quiet_pure ()
  | cons byte string ih => exact (quiet_acceptChar byte).bind fun _ => ih

/-- The parser does not give anything back. -/
def Shrinks (f : Parser α) : Prop :=
  ∀ data a rest, f data = .ok (a, rest) → rest.length ≤ data.length

lemma shrinks_pure (a : α) : Shrinks (pure a : Parser α) := by
  intro data b rest h
  cases h
  rfl

lemma shrinks_err : Shrinks (err : Parser α) := by
  intro data a rest h
  cases h

lemma shrinks_lift (x : Outcome α) : Shrinks (lift x) := by
  intro data a rest h
  obtain ⟨b, -, h⟩ := Outcome.bind_eq_ok.mp h
  cases h
  rfl

lemma Shrinks.bind {g : α → Parser β} (hf : Shrinks f) (hg : ∀ a, Shrinks (g a)) :
    Shrinks (f >>= g) := by
  intro data b rest h
  obtain ⟨a, rest', hfirst, hsecond⟩ := bind_eq_ok.mp h
  exact (hg a _ _ _ hsecond).trans (hf _ _ _ hfirst)

lemma Shrinks.tryDo (hf : Shrinks f) : Shrinks (tryDo f) := by
  intro data r rest h
  obtain ⟨a, -, ha⟩ | ⟨-, rfl, -⟩ := tryDo_eq_ok h
  · exact hf _ _ _ ha
  · rfl

lemma shrinks_acceptChar (chr : UInt8) : Shrinks (acceptChar chr) := by
  intro data a rest h
  rw [acceptChar_eq_ok h]
  exact Nat.le_succ _

/-! ### Numerals -/

/-- The value of a numeral behind digits of some value. -/
def valueFrom (hex : Bool) (digits : List UInt8) (value : ℕ) : ℕ :=
  digits.foldl (fun value chr => value * base hex + (digit hex chr).getD 0) value

/-- Some digits, not too many, of a number that is small enough. -/
structure Numeral (hex : Bool) (maxDigits maxValue : ℕ) where
  digits : List UInt8
  ne_nil : digits ≠ []
  length_le : digits.length ≤ maxDigits
  isDigit : ∀ chr ∈ digits, (digit hex chr).isSome
  value_lt : valueFrom hex digits 0 < maxValue

def Numeral.value {hex : Bool} {maxDigits maxValue : ℕ} (n : Numeral hex maxDigits maxValue) : ℕ :=
  valueFrom hex n.digits 0

lemma Numeral.ext {hex : Bool} {maxDigits maxValue : ℕ} {n m : Numeral hex maxDigits maxValue}
    (h : n.digits = m.digits) : n = m := by
  cases n
  cases m
  congr

/-- There is no digit in front. -/
def NoDigit (hex : Bool) (data : List UInt8) : Prop := ∀ chr ∈ data.head?, digit hex chr = none

lemma noDigit_cons {hex : Bool} {chr : UInt8} (h : digit hex chr = none) :
    NoDigit hex (chr :: data) := by
  intro c hc
  cases hc
  exact h

section Numbers

variable {hex : Bool} {maxDigits maxValue n value : ℕ} {digits : List UInt8} {chr : UInt8}

lemma acceptDigit_of {d : ℕ} (h : digit hex chr = some d) :
    acceptDigit hex (chr :: rest) = .ok (d, rest) := by
  rw [acceptDigit, bind_of_eq (rfl : advance (chr :: rest) = .ok (chr, rest)), h]
  rfl

lemma acceptDigit_fail (h : NoDigit hex data) : acceptDigit hex data = fail := by
  cases data with
  | nil => rfl
  | cons chr data =>
    rw [acceptDigit, bind_of_eq (rfl : advance (chr :: data) = .ok (chr, data)), h chr rfl]
    rfl

lemma acceptDigit_eq_ok {d : ℕ} (h : acceptDigit hex data = .ok (d, rest)) :
    ∃ chr, data = chr :: rest ∧ digit hex chr = some d := by
  cases data with
  | nil => cases h
  | cons chr data =>
    cases hd : digit hex chr with
    | none =>
      rw [acceptDigit_fail fun c hc => by cases hc; exact hd] at h
      cases h
    | some value =>
      rw [acceptDigit_of hd] at h
      cases h
      exact ⟨chr, rfl, hd⟩

lemma quiet_acceptDigit (hex : Bool) : Quiet (acceptDigit hex) := by
  refine quiet_advance.bind fun chr => ?_
  split
  · exact quiet_pure _
  · exact quiet_err

/-- Digits are read up to the first octet that is none, or as many as there may be. -/
lemma acceptDigits_of (hlen : digits.length ≤ n) (hdigit : ∀ chr ∈ digits, (digit hex chr).isSome)
    (hrest : digits.length = n ∨ NoDigit hex rest) :
    acceptDigits hex n value (digits ++ rest) = .ok (valueFrom hex digits value, rest) := by
  induction n generalizing digits value with
  | zero =>
    cases List.eq_nil_of_length_eq_zero (Nat.le_zero.mp hlen)
    rfl
  | succ n ih =>
    cases digits with
    | nil =>
      have hrest := hrest.resolve_left (by simp)
      rw [acceptDigits, List.nil_append, bind_of_eq (tryDo_of_fail (acceptDigit_fail hrest))]
      rfl
    | cons chr digits =>
      obtain ⟨d, hd⟩ := Option.isSome_iff_exists.mp (hdigit chr List.mem_cons_self)
      have ih := @ih (value * base hex + d) digits
        (Nat.le_of_succ_le_succ hlen) (fun c hc => hdigit c (List.mem_cons_of_mem _ hc))
        (hrest.imp Nat.succ.inj id)
      rw [acceptDigits, List.cons_append, bind_of_eq (tryDo_of_eq (acceptDigit_of hd))]
      dsimp only
      rw [ih, valueFrom, valueFrom, List.foldl_cons, hd, Option.getD_some]

lemma exists_digits {v : ℕ} (h : acceptDigits hex n value data = .ok (v, rest)) :
    ∃ digits, data = digits ++ rest ∧ digits.length ≤ n ∧
      (∀ chr ∈ digits, (digit hex chr).isSome) ∧ v = valueFrom hex digits value := by
  induction n generalizing data value with
  | zero =>
    cases h
    exact ⟨[], rfl, Nat.le_refl 0, fun _ hc => absurd hc List.not_mem_nil, rfl⟩
  | succ n ih =>
    obtain ⟨r, rest', htry, hloop⟩ := bind_eq_ok.mp h
    obtain ⟨d, rfl, hd⟩ | ⟨rfl, rfl, -⟩ := tryDo_eq_ok htry
    · obtain ⟨chr, rfl, hchr⟩ := acceptDigit_eq_ok hd
      obtain ⟨digits, rfl, hlen, hdigit, hv⟩ := ih hloop
      refine ⟨chr :: digits, rfl, Nat.succ_le_succ hlen, fun c hc => ?_, ?_⟩
      · obtain rfl | hc := List.mem_cons.mp hc
        · rw [hchr]
          rfl
        · exact hdigit c hc
      · rw [hv, valueFrom, valueFrom, List.foldl_cons, hchr, Option.getD_some]
    · cases hloop
      exact ⟨[], rfl, Nat.zero_le _, fun _ hc => absurd hc List.not_mem_nil, rfl⟩

lemma quiet_acceptDigits (hex : Bool) (n value : ℕ) : Quiet (acceptDigits hex n value) := by
  induction n generalizing value with
  | zero => exact quiet_pure value
  | succ n ih =>
    refine (quiet_acceptDigit hex).tryDo.bind fun r => ?_
    split
    · exact ih _
    · exact quiet_pure value

/-- A numeral is read, where it is as long as it may be or no digit is behind it. -/
lemma acceptNumber_of (m : Numeral hex maxDigits maxValue)
    (hrest : m.digits.length = maxDigits ∨ NoDigit hex rest) :
    acceptNumber maxDigits maxValue hex (m.digits ++ rest) = .ok (m.value, rest) := by
  obtain ⟨digits, hne, hlen, hdigit, hlt⟩ := m
  obtain ⟨chr, digits, rfl⟩ := List.exists_cons_of_ne_nil hne
  obtain ⟨d, hd⟩ := Option.isSome_iff_exists.mp (hdigit chr List.mem_cons_self)
  rw [List.length_cons] at hlen hrest
  have hdigits := @acceptDigits_of rest hex _ d digits
    (Nat.le_sub_one_of_lt (Nat.lt_of_succ_le hlen))
    (fun c hc => hdigit c (List.mem_cons_of_mem _ hc)) (hrest.imp (by omega) id)
  have hvalue : valueFrom hex digits d = valueFrom hex (chr :: digits) 0 := by
    rw [valueFrom, valueFrom, List.foldl_cons, hd, Option.getD_some, Nat.zero_mul, Nat.zero_add]
  rw [acceptNumber, List.cons_append, bind_of_eq (acceptDigit_of hd), bind_of_eq hdigits, hvalue,
    if_pos hlt]
  rfl

lemma exists_numeral {v : ℕ} (hmax : 0 < maxDigits)
    (h : acceptNumber maxDigits maxValue hex data = .ok (v, rest)) :
    ∃ m : Numeral hex maxDigits maxValue, data = m.digits ++ rest ∧ v = m.value := by
  obtain ⟨d, rest', hd, hbehind⟩ := bind_eq_ok.mp h
  obtain ⟨chr, rfl, hchr⟩ := acceptDigit_eq_ok hd
  obtain ⟨w, rest'', hw, hbound⟩ := bind_eq_ok.mp hbehind
  obtain ⟨digits, rfl, hlen, hdigit, rfl⟩ := exists_digits hw
  have hvalue : valueFrom hex digits d = valueFrom hex (chr :: digits) 0 := by
    rw [valueFrom, valueFrom, List.foldl_cons, hchr, Option.getD_some, Nat.zero_mul, Nat.zero_add]
  rw [hvalue] at hbound
  split_ifs at hbound with hlt
  · cases hbound
    refine ⟨⟨chr :: digits, List.cons_ne_nil _ _, ?_, fun c hc => ?_, hlt⟩, rfl, rfl⟩
    · rw [List.length_cons]
      omega
    · obtain rfl | hc := List.mem_cons.mp hc
      · rw [hchr]
        rfl
      · exact hdigit c hc
  · cases hbound

lemma acceptNumber_fail (h : NoDigit hex data) :
    acceptNumber maxDigits maxValue hex data = fail := by
  rw [acceptNumber, bind_of_fail (acceptDigit_fail h)]

lemma quiet_acceptNumber (maxDigits maxValue : ℕ) (hex : Bool) :
    Quiet (acceptNumber maxDigits maxValue hex) := by
  refine (quiet_acceptDigit hex).bind fun d => (quiet_acceptDigits hex _ d).bind fun v => ?_
  split_ifs
  · exact quiet_pure v
  · exact quiet_err

end Numbers

end Parser

end Smoltcp
