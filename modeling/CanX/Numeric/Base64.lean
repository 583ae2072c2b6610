import Mathlib.Data.List.Basic

/-! Strict Base64 over any symbols: digits of six bits, four to a quantum of three bytes, and a padding symbol that
stands at the end of the last quantum alone. -/

namespace CanX.Numeric

universe u

/-- The digits of an alphabet and the symbol that is none of them. -/
structure Alphabet (Symbol : Type u) where
  digit : Symbol → Option (Fin 64)
  padding : Symbol
  padding_none : digit padding = none

namespace Alphabet

variable {Symbol : Type u} [DecidableEq Symbol] (alphabet : Alphabet Symbol)

/-- Four digits are three bytes. -/
def whole (first second third fourth : Symbol) : Option (List UInt8) := do
  let high ← alphabet.digit first
  let upper ← alphabet.digit second
  let lower ← alphabet.digit third
  let low ← alphabet.digit fourth
  return [UInt8.ofNat (4 * high.val + upper.val / 16), UInt8.ofNat (16 * (upper.val % 16) + lower.val / 4),
    UInt8.ofNat (64 * (lower.val % 4) + low.val)]

/-- The last quantum, which padding shortens by a byte or two. -/
def last (first second third fourth : Symbol) : Option (List UInt8) :=
  if fourth = alphabet.padding then
    if third = alphabet.padding then do
      let high ← alphabet.digit first
      let upper ← alphabet.digit second
      return [UInt8.ofNat (4 * high.val + upper.val / 16)]
    else do
      let high ← alphabet.digit first
      let upper ← alphabet.digit second
      let lower ← alphabet.digit third
      return [UInt8.ofNat (4 * high.val + upper.val / 16), UInt8.ofNat (16 * (upper.val % 16) + lower.val / 4)]
  else alphabet.whole first second third fourth

def decode : List Symbol → Option (List UInt8)
  | [] => some []
  | [first, second, third, fourth] => alphabet.last first second third fourth
  | first :: second :: third :: fourth :: rest =>
    (alphabet.whole first second third fourth).bind fun bytes => (decode rest).map (bytes ++ ·)
  | _ => none

section Quanta

variable {alphabet} {first second third fourth : Symbol} {front back symbols : List Symbol} {bytes : List UInt8}

@[simp] theorem decode_nil : alphabet.decode [] = some [] := rfl

@[simp] theorem decode_last : alphabet.decode [first, second, third, fourth] =
    alphabet.last first second third fourth := rfl

theorem decode_cons (more : back ≠ []) : alphabet.decode (first :: second :: third :: fourth :: back) =
    (alphabet.whole first second third fourth).bind fun bytes => (alphabet.decode back).map (bytes ++ ·) := by
  cases back with
  | nil => exact absurd rfl more
  | cons symbol rest => rfl

omit [DecidableEq Symbol] in
theorem whole_some : (alphabet.whole first second third fourth).isSome =
    ((alphabet.digit first).isSome && (alphabet.digit second).isSome && (alphabet.digit third).isSome &&
      (alphabet.digit fourth).isSome) := by
  unfold whole
  cases alphabet.digit first with
  | none => rfl
  | some high =>
    cases alphabet.digit second with
    | none => rfl
    | some upper =>
      cases alphabet.digit third with
      | none => rfl
      | some lower =>
        cases alphabet.digit fourth with
        | none => rfl
        | some low => rfl

omit [DecidableEq Symbol] in
theorem whole_length (decoded : alphabet.whole first second third fourth = some bytes) : bytes.length = 3 := by
  unfold whole at decoded
  simp only [Option.bind_eq_bind, Option.bind_eq_some_iff] at decoded
  obtain ⟨_, _, _, _, _, _, _, _, same⟩ := decoded
  rw [← Option.some.inj same]
  rfl

theorem last_length (decoded : alphabet.last first second third fourth = some bytes) :
    1 ≤ bytes.length ∧ bytes.length ≤ 3 := by
  unfold last at decoded
  split at decoded
  · split at decoded
    · simp only [Option.bind_eq_bind, Option.bind_eq_some_iff] at decoded
      obtain ⟨_, _, _, _, same⟩ := decoded
      rw [← Option.some.inj same]
      exact ⟨Nat.le_refl 1, Nat.le_add_left 1 2⟩
    · simp only [Option.bind_eq_bind, Option.bind_eq_some_iff] at decoded
      obtain ⟨_, _, _, _, _, _, same⟩ := decoded
      rw [← Option.some.inj same]
      exact ⟨Nat.le_add_left 1 1, Nat.le_add_left 2 1⟩
  · rw [whole_length decoded]
    exact ⟨Nat.le_add_left 1 2, Nat.le_refl 3⟩

omit [DecidableEq Symbol] in
/-- Symbols with padding among them are no whole quantum. -/
theorem whole_padding (padded : alphabet.padding ∈ [first, second, third, fourth]) :
    alphabet.whole first second third fourth = none := by
  have none_ : (alphabet.whole first second third fourth).isSome = false := by
    rw [whole_some]
    simp only [List.mem_cons, List.not_mem_nil, or_false] at padded
    rcases padded with same | same | same | same
    all_goals simp [← same, alphabet.padding_none]
  exact Option.isSome_eq_false_iff.mp none_ |> Option.isNone_iff_eq_none.mp

omit [DecidableEq Symbol] in
theorem exists_quantum (nonempty : symbols ≠ []) (quanta : symbols.length % 4 = 0) :
    ∃ first second third fourth rest, symbols = first :: second :: third :: fourth :: rest := by
  match symbols, nonempty, quanta with
  | [_], _, quanta => simp at quanta
  | [_, _], _, quanta => simp at quanta
  | [_, _, _], _, quanta => simp at quanta
  | first :: second :: third :: fourth :: rest, _, _ => exact ⟨first, second, third, fourth, rest, rfl⟩

/-- Quanta that others follow are the same decoded on their own, unless they are padded. -/
theorem decode_append (quanta : front.length % 4 = 0) (more : back ≠ []) :
    alphabet.decode (front ++ back) =
      if alphabet.padding ∈ front then none
      else (alphabet.decode front).bind fun bytes => (alphabet.decode back).map (bytes ++ ·) := by
  induction front using decode.induct with
  | case1 => simp
  | case2 first second third fourth =>
    rw [List.cons_append, List.cons_append, List.cons_append, List.cons_append, List.nil_append, decode_cons more]
    by_cases padded : alphabet.padding ∈ [first, second, third, fourth]
    · rw [if_pos padded, whole_padding padded, Option.bind_none]
    · have plain : fourth ≠ alphabet.padding := by
        rintro rfl
        simp at padded
      rw [if_neg padded, decode_last, last, if_neg plain]
  | case3 first second third fourth rest nonempty ih =>
    have later : rest.length % 4 = 0 := by
      simp only [List.length_cons] at quanta
      omega
    have split : alphabet.padding ∈ first :: second :: third :: fourth :: rest ↔
        alphabet.padding ∈ [first, second, third, fourth] ∨ alphabet.padding ∈ rest := by
      simp only [List.mem_cons, List.not_mem_nil, or_false]
      tauto
    have following : rest ++ back ≠ [] := List.append_ne_nil_of_right_ne_nil _ more
    simp only [List.cons_append, decode_cons following, decode_cons nonempty, split, ih later]
    by_cases padded : alphabet.padding ∈ [first, second, third, fourth]
    · rw [if_pos (Or.inl padded), whole_padding padded, Option.bind_none]
    · by_cases tail : alphabet.padding ∈ rest
      · rw [if_pos tail, if_pos (Or.inr tail)]
        cases alphabet.whole first second third fourth with
        | none => rfl
        | some bytes => rfl
      · rw [if_neg tail, if_neg (not_or_intro padded tail)]
        cases alphabet.whole first second third fourth with
        | none => rfl
        | some bytes =>
          cases alphabet.decode rest with
          | none => rfl
          | some middle =>
            cases alphabet.decode back with
            | none => rfl
            | some others => simp [List.append_assoc]
  | case4 symbols empty four more_ =>
    obtain ⟨first, second, third, fourth, rest, same⟩ := exists_quantum empty quanta
    exact absurd same (more_ first second third fourth rest)

/-- A quantum is at least a byte and at most three. -/
theorem decode_length (decoded : alphabet.decode symbols = some bytes) :
    bytes.length ≤ 3 * (symbols.length / 4) ∧ symbols.length ≤ 4 * ((bytes.length + 2) / 3) := by
  induction symbols using decode.induct generalizing bytes with
  | case1 =>
    rw [← Option.some.inj decoded]
    exact ⟨Nat.zero_le _, Nat.zero_le _⟩
  | case2 first second third fourth =>
    have size := last_length decoded
    simp only [List.length_cons, List.length_nil]
    omega
  | case3 first second third fourth rest nonempty ih =>
    rw [decode_cons nonempty] at decoded
    obtain ⟨front, here, later⟩ := Option.bind_eq_some_iff.mp decoded
    obtain ⟨back, there, rfl⟩ := Option.map_eq_some_iff.mp later
    have size := whole_length here
    have sizes := ih there
    simp only [List.length_cons, List.length_append]
    omega
  | case4 symbols empty four more =>
    rw [decode] at decoded
    · cases decoded
    · exact empty
    · exact four
    · exact more

/-- Digits in whole quanta, with one or two paddings at the very end or none. -/
def Spelled (alphabet : Alphabet Symbol) (symbols : List Symbol) : Prop :=
  symbols.length % 4 = 0 ∧ ∃ body, ∃ padding ≤ 2, (∀ symbol ∈ body, (alphabet.digit symbol).isSome) ∧
    symbols = body ++ List.replicate padding alphabet.padding

omit [DecidableEq Symbol] in
theorem digit_ne_padding {symbol : Symbol} (digit : (alphabet.digit symbol).isSome) : symbol ≠ alphabet.padding := by
  rintro rfl
  rw [alphabet.padding_none] at digit
  cases digit

theorem last_of_spelled (spelled : alphabet.Spelled [first, second, third, fourth]) :
    (alphabet.last first second third fourth).isSome := by
  obtain ⟨_, body, padding, few, digits, same⟩ := spelled
  have count : padding = 0 ∨ padding = 1 ∨ padding = 2 := by omega
  rcases count with rfl | rfl | rfl
  · rw [List.replicate_zero, List.append_nil] at same
    subst same
    have plain : fourth ≠ alphabet.padding := digit_ne_padding (digits fourth (by simp))
    rw [last, if_neg plain, whole_some, digits first (by simp), digits second (by simp), digits third (by simp),
      digits fourth (by simp)]
    rfl
  · have split : [first, second, third] ++ [fourth] = body ++ [alphabet.padding] := same
    obtain ⟨rfl, ending⟩ := List.append_inj' split rfl
    have padded : fourth = alphabet.padding := List.singleton_inj.mp ending
    have plain : third ≠ alphabet.padding := digit_ne_padding (digits third (by simp))
    obtain ⟨high, here⟩ := Option.isSome_iff_exists.mp (digits first (by simp))
    obtain ⟨upper, there⟩ := Option.isSome_iff_exists.mp (digits second (by simp))
    obtain ⟨lower, beyond⟩ := Option.isSome_iff_exists.mp (digits third (by simp))
    simp [last, if_pos padded, if_neg plain, here, there, beyond]
  · have split : [first, second] ++ [third, fourth] = body ++ [alphabet.padding, alphabet.padding] := same
    obtain ⟨rfl, ending⟩ := List.append_inj' split rfl
    obtain ⟨shorter, padded⟩ := List.cons_eq_cons.mp ending
    have padded : fourth = alphabet.padding := List.singleton_inj.mp padded
    obtain ⟨high, here⟩ := Option.isSome_iff_exists.mp (digits first (by simp))
    obtain ⟨upper, there⟩ := Option.isSome_iff_exists.mp (digits second (by simp))
    simp [last, if_pos padded, if_pos shorter, here, there]

theorem spelled_of_last (decoded : (alphabet.last first second third fourth).isSome) :
    alphabet.Spelled [first, second, third, fourth] := by
  refine ⟨by simp, ?_⟩
  unfold last at decoded
  split at decoded
  · rename_i padded
    split at decoded
    · rename_i shorter
      obtain ⟨bytes, same⟩ := Option.isSome_iff_exists.mp decoded
      simp only [Option.bind_eq_bind, Option.bind_eq_some_iff] at same
      obtain ⟨high, here, upper, there, _⟩ := same
      exact ⟨[first, second], 2, Nat.le_refl 2, by simp [here, there], by rw [padded, shorter]; rfl⟩
    · obtain ⟨bytes, same⟩ := Option.isSome_iff_exists.mp decoded
      simp only [Option.bind_eq_bind, Option.bind_eq_some_iff] at same
      obtain ⟨high, here, upper, there, lower, beyond, _⟩ := same
      exact ⟨[first, second, third], 1, Nat.le_succ 1, by simp [here, there, beyond], by rw [padded]; rfl⟩
  · rw [whole_some] at decoded
    simp only [Bool.and_eq_true] at decoded
    obtain ⟨⟨⟨here, there⟩, beyond⟩, end_⟩ := decoded
    exact ⟨[first, second, third, fourth], 0, Nat.zero_le 2, by simp [here, there, beyond, end_], by simp⟩

omit [DecidableEq Symbol] in
/-- A quantum that others follow has digits alone. -/
theorem spelled_cons (more : back ≠ []) : alphabet.Spelled (first :: second :: third :: fourth :: back) ↔
    (alphabet.whole first second third fourth).isSome ∧ alphabet.Spelled back := by
  rw [whole_some]
  simp only [Bool.and_eq_true]
  constructor
  · intro ⟨quanta, body, padding, few, digits, same⟩
    have length := congrArg List.length same
    simp only [List.length_cons, List.length_append, List.length_replicate] at length quanta
    have positive := List.length_pos_iff.mpr more
    match body, digits, same with
    | [], _, _ =>
      rw [List.length_nil] at length
      omega
    | [_], _, _ =>
      simp only [List.length_cons, List.length_nil] at length
      omega
    | [_, _], _, _ =>
      simp only [List.length_cons, List.length_nil] at length
      omega
    | [_, _, _], _, _ =>
      simp only [List.length_cons, List.length_nil] at length
      omega
    | _ :: _ :: _ :: _ :: rest, digits, same =>
      simp only [List.cons_append, List.cons.injEq] at same
      obtain ⟨rfl, rfl, rfl, rfl, same⟩ := same
      simp only [List.mem_cons, forall_eq_or_imp] at digits
      obtain ⟨here, there, beyond, end_, others⟩ := digits
      exact ⟨⟨⟨⟨here, there⟩, beyond⟩, end_⟩, by omega, rest, padding, few, others, same⟩
  · intro ⟨⟨⟨⟨here, there⟩, beyond⟩, end_⟩, quanta, body, padding, few, digits, same⟩
    refine ⟨?_, first :: second :: third :: fourth :: body, padding, few, ?_, ?_⟩
    · simp only [List.length_cons]
      omega
    · simp only [List.mem_cons, forall_eq_or_imp]
      exact ⟨here, there, beyond, end_, digits⟩
    · rw [same]
      rfl

/-- What can be decoded is spelled so. -/
theorem decode_spelled : (alphabet.decode symbols).isSome ↔ alphabet.Spelled symbols := by
  induction symbols using decode.induct with
  | case1 =>
    constructor
    · intro _
      exact ⟨rfl, [], 0, Nat.zero_le 2, by simp, rfl⟩
    · intro _
      rfl
  | case2 first second third fourth => exact ⟨spelled_of_last, last_of_spelled⟩
  | case3 first second third fourth rest nonempty ih =>
    rw [decode_cons nonempty, spelled_cons nonempty, ← ih]
    cases alphabet.whole first second third fourth with
    | none => simp
    | some bytes => simp
  | case4 symbols empty four more =>
    constructor
    · intro decoded
      rw [decode] at decoded
      · cases decoded
      · exact empty
      · exact four
      · exact more
    · intro ⟨quanta, _⟩
      obtain ⟨first, second, third, fourth, rest, same⟩ := exists_quantum empty quanta
      exact absurd same (more first second third fourth rest)

end Quanta

end Alphabet

end CanX.Numeric
