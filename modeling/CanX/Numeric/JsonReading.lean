import CanX.Numeric.Json
import CanX.Transition.Outcome
import Mathlib.Data.List.TakeWhile

/-! The reader of JSON texts against their grammar: it takes exactly the texts that spell a value. -/

namespace CanX.Numeric.Json

section Tokens

variable {text rest tail power sign digits : List Point} {first : Point} {value : Json}

/-- No digit comes next. -/
def Halts (text : List Point) : Prop := ∀ character ∈ text.head?, digit character = false

theorem takeWhile_digits (all : ∀ character ∈ digits, digit character = true) (halts : Halts rest) :
    (digits ++ rest).takeWhile digit = digits ∧ (digits ++ rest).dropWhile digit = rest := by
  rw [List.takeWhile_append_of_pos all, List.dropWhile_append_of_pos all]
  cases rest with
  | nil => exact ⟨List.append_nil digits, rfl⟩
  | cons first rest =>
    have apart : ¬digit first = true := by rw [halts first rfl]; exact Bool.false_ne_true
    rw [List.takeWhile_cons_of_neg apart, List.dropWhile_cons_of_neg apart, List.append_nil]
    exact ⟨rfl, rfl⟩

theorem Digits.leads (digits : Digits text) : ∃ first rest, text = first :: rest ∧ digit first = true ∧
    ∀ character ∈ rest, digit character = true := by
  obtain ⟨nonempty, all⟩ := digits
  obtain ⟨first, rest, rfl⟩ := List.exists_cons_of_ne_nil nonempty
  exact ⟨first, rest, rfl, all _ List.mem_cons_self, fun character member => all _ (List.mem_cons_of_mem _ member)⟩

/-- What stands where a value ends is no part of a number. -/
theorem ends_apart (ends : Ends rest) (next : first ∈ rest.head?) :
    digit first = false ∧ first ≠ point '.' ∧ first ≠ point 'e' ∧ first ≠ point 'E' := by
  have stop := ends first next
  simp only [blank, List.mem_cons, List.not_mem_nil, or_false, Bool.or_eq_true, decide_eq_true_eq] at stop
  rcases stop with (((rfl | rfl) | rfl) | rfl) | rfl | rfl | rfl <;> decide

private theorem readExponent_ends (ends : Ends rest) : readExponent rest = ([], rest) := by
  rcases rest with _ | ⟨first, _ | ⟨second, _ | ⟨third, rest⟩⟩⟩
  · rfl
  · rfl
  · obtain ⟨-, -, lower, upper⟩ := ends_apart ends rfl
    exact if_neg fun both => both.1.elim lower upper
  · obtain ⟨-, -, lower, upper⟩ := ends_apart ends rfl
    exact if_neg fun either => either.elim lower upper

theorem readExponent_exponent (exponent : Exponent power) (ends : Ends rest) :
    readExponent (power ++ rest) = (power, rest) := by
  have halts : Halts rest := fun _ next => (ends_apart ends next).1
  cases exponent with
  | none => exact readExponent_ends ends
  | @some letter sign digits opens signed digits =>
    obtain ⟨first, others, rfl, decimal, all⟩ := digits.leads
    obtain ⟨taken, dropped⟩ := takeWhile_digits all halts
    simp only [List.mem_cons, List.not_mem_nil, or_false] at signed
    rcases signed with rfl | rfl | rfl
    · cases behind : others ++ rest with
      | nil =>
        obtain ⟨rfl, rfl⟩ := List.append_eq_nil_iff.mp behind
        exact if_pos ⟨opens, decimal⟩
      | cons third tail =>
        rw [behind] at taken dropped
        simp only [List.nil_append, List.cons_append, behind, readExponent]
        rw [if_pos opens, if_pos decimal, taken, dropped]
    · simp only [List.cons_append, List.nil_append, readExponent]
      rw [if_pos opens, if_neg (by decide), if_pos ⟨.inl trivial, decimal⟩, taken, dropped]
    · simp only [List.cons_append, List.nil_append, readExponent]
      rw [if_pos opens, if_neg (by decide), if_pos ⟨.inr trivial, decimal⟩, taken, dropped]

private theorem exponent_apart (exponent : Exponent power) (ends : Ends rest) (next : first ∈ (power ++ rest).head?) :
    digit first = false ∧ first ≠ point '.' := by
  cases exponent with
  | none =>
    obtain ⟨apart, dotless, -⟩ := ends_apart ends next
    exact ⟨apart, dotless⟩
  | some opens _ _ =>
    obtain rfl := Option.some.inj next
    rcases opens with rfl | rfl <;> decide

private theorem readFraction_fraction (fraction : Fraction tail)
    (apart : ∀ character ∈ rest.head?, digit character = false ∧ character ≠ point '.') :
    readFraction (tail ++ rest) = (tail, rest) := by
  cases fraction with
  | none =>
    rcases rest with _ | ⟨first, _ | ⟨second, rest⟩⟩
    · rfl
    · rfl
    · exact if_neg fun both => (apart first rfl).2 both.1
  | some digits =>
    obtain ⟨first, others, rfl, decimal, all⟩ := digits.leads
    obtain ⟨taken, dropped⟩ := takeWhile_digits all fun character next => (apart character next).1
    simp only [List.cons_append, readFraction]
    rw [if_pos ⟨trivial, decimal⟩, taken, dropped]

private theorem fraction_halts (fraction : Fraction tail) (halts : Halts rest) : Halts (tail ++ rest) := by
  cases fraction with
  | none => exact halts
  | some digits =>
    intro character next
    obtain rfl := Option.some.inj next
    rfl

/-- The reader takes a number to its end. -/
theorem readUnsigned_number (whole : Whole text) (fraction : Fraction tail) (exponent : Exponent power)
    (ends : Ends rest) : readUnsigned sign (text ++ (tail ++ (power ++ rest))) =
      if tail = [] ∧ power = [] then
        if maxDigits < text.length then .error .digits
        else .ok (.integer (if sign = [] then digitsValue text else -(digitsValue text : Int)), rest)
      else .ok (.decimal (sign ++ text ++ tail ++ power), rest) := by
  have apart : ∀ character ∈ (power ++ rest).head?, digit character = false ∧ character ≠ point '.' :=
    fun _ next => exponent_apart exponent ends next
  have halts : Halts (tail ++ (power ++ rest)) := fraction_halts fraction fun _ next => (apart _ next).1
  obtain ⟨first, others, rfl, decimal, all⟩ := whole.1.leads
  obtain ⟨taken, dropped⟩ := takeWhile_digits all halts
  have front : (if first = point '0' then [first] else first :: (others ++ (tail ++ (power ++ rest))).takeWhile digit) =
      first :: others := by
    split
    · rename_i zero
      subst zero
      exact (whole.2 rfl).symm
    · rw [taken]
  have back : (if first = point '0' then others ++ (tail ++ (power ++ rest))
      else (others ++ (tail ++ (power ++ rest))).dropWhile digit) = tail ++ (power ++ rest) := by
    split
    · rename_i zero
      subst zero
      rw [(List.cons.inj (whole.2 rfl)).2, List.nil_append]
    · rw [dropped]
  rw [List.cons_append, readUnsigned, if_pos decimal]
  simp only [front, back, readFraction_fraction fraction apart, readExponent_exponent exponent ends]

/-- What a value opens with, other than a quote or a bracket. -/
def Opens (character : Point) : Prop :=
  blank character = false ∧ character ∉ [point '"', point '[', point '{', point ']', point '}']

private theorem digit_opens (decimal : digit first = true) : Opens first := by
  constructor
  · cases spaced : blank first with
    | false => rfl
    | true =>
      simp only [blank, Bool.or_eq_true, decide_eq_true_eq] at spaced
      rcases spaced with ((rfl | rfl) | rfl) | rfl <;> cases decimal
  · intro bracket
    simp only [List.mem_cons, List.not_mem_nil, or_false] at bracket
    rcases bracket with rfl | rfl | rfl | rfl | rfl <;> cases decimal

theorem Token.opens (token : Token text value) : ∃ first rest, text = first :: rest ∧ Opens first := by
  cases token with
  | keyword listed =>
    simp only [keywords, List.mem_cons, List.not_mem_nil, or_false, Prod.mk.injEq] at listed
    rcases listed with ⟨rfl, -⟩ | ⟨rfl, -⟩ | ⟨rfl, -⟩ | ⟨rfl, -⟩ | ⟨rfl, -⟩ <;>
      exact ⟨_, _, rfl, by decide, by decide⟩
  | infinity => exact ⟨_, _, rfl, by decide, by decide⟩
  | natural whole _ =>
    obtain ⟨first, rest, rfl, decimal, -⟩ := whole.1.leads
    exact ⟨first, rest, rfl, digit_opens decimal⟩
  | negative _ _ => exact ⟨_, _, rfl, by decide, by decide⟩
  | decimal signed whole _ _ _ =>
    obtain ⟨first, rest, rfl, decimal, -⟩ := whole.1.leads
    rcases signed with rfl | rfl
    · exact ⟨first, _, rfl, digit_opens decimal⟩
    · exact ⟨_, _, rfl, by decide, by decide⟩

/-- An unsigned number is read as a number. -/
theorem readPlain_unsigned (whole : Whole text) : readPlain (text ++ rest) = readUnsigned [] (text ++ rest) := by
  obtain ⟨first, others, rfl, decimal, -⟩ := whole.1.leads
  rw [List.cons_append, readPlain, if_pos decimal]

private theorem readPlain_signed (whole : Whole text) :
    readPlain (point '-' :: (text ++ rest)) = readUnsigned [point '-'] (text ++ rest) := by
  obtain ⟨first, others, rfl, decimal, -⟩ := whole.1.leads
  have letter : (point 'I' == first) = false := by
    rw [beq_eq_false_iff_ne]
    rintro rfl
    cases decimal
  have apart : (points "Infinity").isPrefixOf (first :: others ++ rest) = false :=
    Bool.and_eq_false_iff.mpr (.inl letter)
  rw [readPlain, if_neg (by decide), if_pos rfl, apart, if_neg Bool.false_ne_true]

/-- Every token is read as its value. -/
theorem Token.reads (token : Token text value) (ends : Ends rest) : readPlain (text ++ rest) = .ok (value, rest) := by
  cases token with
  | keyword listed =>
    simp only [keywords, List.mem_cons, List.not_mem_nil, or_false, Prod.mk.injEq] at listed
    rcases listed with ⟨rfl, rfl⟩ | ⟨rfl, rfl⟩ | ⟨rfl, rfl⟩ | ⟨rfl, rfl⟩ | ⟨rfl, rfl⟩ <;> rfl
  | infinity => rfl
  | natural whole few =>
    have read := @readUnsigned_number text rest [] [] [] whole .none .none ends
    rw [if_pos ⟨rfl, rfl⟩, if_neg (Nat.not_lt.mpr few), if_pos rfl] at read
    rw [readPlain_unsigned whole]
    exact read
  | @negative digits whole few =>
    have read := @readUnsigned_number digits rest [] [] [point '-'] whole .none .none ends
    rw [if_pos ⟨rfl, rfl⟩, if_neg (Nat.not_lt.mpr few), if_neg (List.cons_ne_nil _ _)] at read
    rw [List.cons_append, readPlain_signed whole]
    exact read
  | @decimal sign digits tail power signed whole fraction exponent either =>
    have read := @readUnsigned_number digits rest tail power sign whole fraction exponent ends
    rw [if_neg either] at read
    rcases signed with rfl | rfl
    · simp only [List.nil_append, List.append_assoc] at read ⊢
      rw [readPlain_unsigned whole, read]
    · simp only [List.nil_append, List.cons_append, List.append_assoc] at read ⊢
      rw [readPlain_signed whole, read]

end Tokens

section Strings

variable {text rest body value behind : List Point} {first character : Point} {unit fuel : Nat}

private theorem lookup_letter : named.lookup (point 'u') = none := by decide

/-- A unit that no low surrogate joins stands for itself. -/
theorem joined_alone (alone : High unit → ¬LowEscape body) (written : Written body value) :
    joined unit (body ++ point '"' :: rest) = some (unitPoint unit, body ++ point '"' :: rest) := by
  unfold joined
  split
  · rename_i slash letter first second third fourth others shape
    split
    · rename_i joins
      obtain ⟨lower, upper, rfl, rfl⟩ := joins
      cases written with
      | nil => exact absurd (List.cons.inj shape).1 (by decide)
      | kept _ _ unescaped _ => exact absurd (List.cons.inj shape).1 unescaped
      | letter listed _ =>
        obtain ⟨rfl, -⟩ := List.cons.inj (List.cons.inj shape).2
        rw [lookup_letter] at listed
        cases listed
      | unit digits _ _ =>
        simp only [List.cons_append, List.cons.injEq, true_and] at shape
        obtain ⟨rfl, rfl, rfl, rfl, -⟩ := shape
        rw [digits]
        exact if_neg fun low => alone ⟨lower, upper⟩ (.starts digits low)
      | pair digits high _ _ _ =>
        simp only [List.cons_append, List.cons.injEq, true_and] at shape
        obtain ⟨rfl, rfl, rfl, rfl, -⟩ := shape
        rw [digits]
        exact if_neg fun low => Nat.not_lt.mpr high.2 low.1
    · rfl
  · rfl

theorem joined_pair {upper lower : Nat} {fifth sixth seventh eighth : Point} (high : High upper)
    (digits : hexUnit fifth sixth seventh eighth = some lower) (low : Low lower) :
    joined upper (point '\\' :: point 'u' :: fifth :: sixth :: seventh :: eighth :: rest) =
      some (pairPoint upper lower, rest) := by
  rw [joined, if_pos ⟨high.1, high.2, rfl, rfl⟩, digits]
  exact if_pos low

private theorem readEscape_letter (listed : named.lookup first = some character) :
    readEscape (first :: rest) = some (character, rest) := by
  have apart : first ≠ point 'u' := by
    rintro rfl
    rw [lookup_letter] at listed
    cases listed
  have looked : readEscape (first :: rest) = (named.lookup first).map fun character => (character, rest) := by
    unfold readEscape
    exact if_neg apart
  rw [looked, listed, Option.map_some]

private theorem readEscape_unit {second third fourth : Point} (digits : hexUnit first second third fourth = some unit) :
    readEscape (point 'u' :: first :: second :: third :: fourth :: rest) = joined unit rest := by
  rw [readEscape, if_pos rfl, digits]
  rfl

private theorem readString_escape (escaped : readEscape text = some (character, behind))
    (inside : readString fuel behind = .ok (value, rest)) :
    readString (fuel + 1) (point '\\' :: text) = .ok (character :: value, rest) := by
  rw [readString, if_neg (by decide), if_neg (by decide), if_pos rfl, escaped]
  simp only [inside]
  rfl

theorem Written.reads (written : Written body value) (enough : body.length < fuel) :
    readString fuel (body ++ point '"' :: rest) = .ok (value, rest) := by
  induction written generalizing fuel with
  | nil =>
    cases fuel with
    | zero => exact absurd enough (Nat.not_lt_zero _)
    | succ fuel => rfl
  | kept open' printed unescaped written ih =>
    cases fuel with
    | zero => exact absurd enough (Nat.not_lt_zero _)
    | succ fuel =>
      rw [List.cons_append, readString, if_neg open', if_neg (Nat.not_lt.mpr printed), if_neg unescaped,
        ih (Nat.lt_of_succ_lt_succ enough)]
      rfl
  | @letter letter character body value listed written ih =>
    cases fuel with
    | zero => exact absurd enough (Nat.not_lt_zero _)
    | succ fuel =>
      have shorter := Nat.lt_of_succ_lt (Nat.lt_of_succ_lt_succ enough)
      rw [List.cons_append, List.cons_append]
      exact readString_escape (readEscape_letter listed) (ih shorter)
  | unit digits alone written ih =>
    cases fuel with
    | zero => exact absurd enough (Nat.not_lt_zero _)
    | succ fuel =>
      simp only [List.length_cons] at enough
      simp only [List.cons_append]
      exact readString_escape ((readEscape_unit digits).trans (joined_alone alone written)) (ih (by omega))
  | pair digits high others low written ih =>
    cases fuel with
    | zero => exact absurd enough (Nat.not_lt_zero _)
    | succ fuel =>
      simp only [List.length_cons] at enough
      simp only [List.cons_append]
      exact readString_escape ((readEscape_unit digits).trans (joined_pair high others low)) (ih (by omega))

/-- A high surrogate that no low one follows stands for itself; with a low one it is one character. -/
example : readString 24 (points "\\ud83d\\u0041\\ud83d\\ude97\"") =
    .ok ([unitPoint 0xD83D, point 'A', pairPoint 0xD83D 0xDE97], []) := by
  decide +kernel

end Strings

section Complete

variable {text rest space body value : List Point} {first : Point} {form : Form} {fuel : Nat}

private theorem skip_gap (gap : Gap space) (opens : ∀ character ∈ rest.head?, blank character = false) :
    skip (space ++ rest) = rest := by
  rw [skip, List.dropWhile_append_of_pos gap]
  cases rest with
  | nil => rfl
  | cons first rest => exact List.dropWhile_cons_of_neg (by simp [opens first rfl])

theorem skip_to (gap : Gap space) (opens : blank first = false) : skip (space ++ first :: rest) = first :: rest := by
  refine skip_gap gap fun character here => ?_
  obtain rfl := Option.some.inj here
  exact opens

theorem skip_all (gap : Gap space) : skip space = [] := by
  have whole : skip (space ++ []) = [] := skip_gap gap fun _ none => absurd none (Option.not_mem_none _)
  rwa [List.append_nil] at whole

theorem Spells.opens (spells : Spells form text) : ∃ first rest, text = first :: rest ∧ blank first = false ∧
    first ∉ [point ']', point '}'] := by
  induction spells with
  | plain token =>
    obtain ⟨first, rest, same, opens⟩ := token.opens
    refine ⟨first, rest, same, opens.1, fun closing => opens.2 ?_⟩
    simp only [List.mem_cons, List.not_mem_nil, or_false] at closing ⊢
    tauto
  | last element gap ih =>
    obtain ⟨first, rest, same, opens⟩ := ih
    exact ⟨first, _, by rw [same, List.cons_append], opens⟩
  | more element before behind rest ih _ =>
    obtain ⟨first, rest, same, opens⟩ := ih
    exact ⟨first, _, by rw [same, List.cons_append], opens⟩
  | _ => exact ⟨_, _, rfl, by decide, by decide⟩

/-- What the reader of a form makes of a text. -/
def Form.Read (text : List Point) : Form → Prop
  | .value held => ∀ fuel rest, Ends rest → 2 * text.length ≤ fuel → readValue fuel (text ++ rest) = .ok (held, rest)
  | .elements held => ∀ fuel rest, 2 * text.length < fuel →
      readElements fuel (text ++ point ']' :: rest) = .ok (held, rest)
  | .fields held => ∀ fuel rest, 2 * text.length < fuel →
      readFields fuel (text ++ point '}' :: rest) = .ok (held, rest)

theorem ends_gap (gap : Gap space) (stop : first ∈ [point ',', point ']', point '}']) :
    Ends (space ++ first :: rest) := by
  intro character here
  cases space with
  | nil =>
    obtain rfl := Option.some.inj here
    exact .inr stop
  | cons head tail =>
    obtain rfl := Option.some.inj here
    exact .inl (gap _ List.mem_cons_self)

/-- Every text that spells a value is read as that value, whatever may follow it. -/
theorem Spells.read (spells : Spells form text) : form.Read text := by
  induction spells with
  | @plain text value token =>
    intro fuel rest ends enough
    obtain ⟨first, after, rfl, -, opens⟩ := token.opens
    simp only [List.mem_cons, List.not_mem_nil, or_false, not_or] at opens
    cases fuel with
    | zero => exact absurd enough (Nat.not_succ_le_zero _)
    | succ fuel =>
      rw [List.cons_append, readValue, if_neg opens.1, if_neg opens.2.1, if_neg opens.2.2.1]
      exact token.reads ends
  | @string body value written =>
    intro fuel rest _ enough
    simp only [List.length_cons, List.length_append, List.length_nil] at enough
    cases fuel with
    | zero => exact absurd enough (Nat.not_succ_le_zero _)
    | succ fuel =>
      rw [List.cons_append, List.append_assoc, List.singleton_append, readValue, if_pos rfl,
        written.reads (by omega)]
      rfl
  | @emptyArray space gap =>
    intro fuel rest _ enough
    cases fuel with
    | zero => exact absurd enough (Nat.not_succ_le_zero _)
    | succ fuel =>
      rw [List.cons_append, List.append_assoc, List.singleton_append, readValue, if_neg (by decide), if_pos rfl,
        skip_to gap (by decide)]
      rfl
  | @array space elements text gap inside ih =>
    intro fuel rest _ enough
    simp only [List.length_cons, List.length_append, List.length_nil] at enough
    obtain ⟨first, after, rfl, opens, apart⟩ := inside.opens
    cases fuel with
    | zero => exact absurd enough (Nat.not_succ_le_zero _)
    | succ fuel =>
      have read := ih fuel rest (by omega)
      rw [List.cons_append] at read
      rw [List.cons_append, List.append_assoc, List.append_assoc, List.singleton_append, readValue,
        if_neg (by decide), if_pos rfl, List.cons_append, skip_to gap opens]
      simp only [if_neg fun closing => apart (List.mem_cons.mpr (.inl closing)), read]
      rfl
  | @emptyObject space gap =>
    intro fuel rest _ enough
    cases fuel with
    | zero => exact absurd enough (Nat.not_succ_le_zero _)
    | succ fuel =>
      rw [List.cons_append, List.append_assoc, List.singleton_append, readValue, if_neg (by decide),
        if_neg (by decide), if_pos rfl, skip_to gap (by decide)]
      rfl
  | @object space fields text gap inside ih =>
    intro fuel rest _ enough
    simp only [List.length_cons, List.length_append, List.length_nil] at enough
    obtain ⟨first, after, rfl, opens, apart⟩ := inside.opens
    cases fuel with
    | zero => exact absurd enough (Nat.not_succ_le_zero _)
    | succ fuel =>
      have read := ih fuel rest (by omega)
      rw [List.cons_append] at read
      rw [List.cons_append, List.append_assoc, List.append_assoc, List.singleton_append, readValue,
        if_neg (by decide), if_neg (by decide), if_pos rfl, List.cons_append, skip_to gap opens]
      simp only [if_neg fun closing => apart (List.mem_cons_of_mem _ (List.mem_singleton.mpr closing)), read]
      rfl
  | @last value text space element gap ih =>
    intro fuel rest enough
    simp only [List.length_append] at enough
    cases fuel with
    | zero => exact absurd enough (Nat.not_lt_zero _)
    | succ fuel =>
      have read := ih fuel (space ++ point ']' :: rest) (ends_gap gap (by decide)) (by omega)
      rw [List.append_assoc, readElements, read]
      simp only [ok_bind, skip_to gap (show blank (point ']') = false by decide)]
      rfl
  | @more value text space next elements others element before behind inside ih rest =>
    intro fuel back enough
    simp only [List.length_append, List.length_cons] at enough
    obtain ⟨first, after, rfl, opens, -⟩ := inside.opens
    cases fuel with
    | zero => exact absurd enough (Nat.not_lt_zero _)
    | succ fuel =>
      have read := ih fuel (space ++ point ',' :: (next ++ (first :: after ++ point ']' :: back)))
        (ends_gap before (by decide)) (by omega)
      have others := rest fuel back (by omega)
      rw [List.cons_append] at read others
      simp only [List.append_assoc, List.cons_append]
      rw [readElements, read]
      simp only [ok_bind, skip_to before (show blank (point ',') = false by decide), skip_to behind opens, others]
      rfl
  | @lastField body name space next value text final named before behind element gap ih =>
    intro fuel rest enough
    simp only [List.length_append, List.length_cons] at enough
    obtain ⟨first, after, rfl, opens, -⟩ := element.opens
    cases fuel with
    | zero => exact absurd enough (Nat.not_lt_zero _)
    | succ fuel =>
      have read := ih fuel (final ++ point '}' :: rest) (ends_gap gap (by decide)) (by omega)
      simp only [List.append_assoc, List.cons_append] at read ⊢
      rw [readFields, if_pos rfl, named.reads (by omega)]
      simp only [ok_bind, skip_to before (show blank (point ':') = false by decide), skip_to behind opens, read,
        skip_to gap (show blank (point '}') = false by decide), if_true]
  | @moreFields body name space next value text final further fields others named before behind element gap apart
      inside ih rest =>
    intro fuel back enough
    simp only [List.length_append, List.length_cons] at enough
    obtain ⟨first, after, rfl, opens, -⟩ := element.opens
    obtain ⟨head, tail, rfl, starts, -⟩ := inside.opens
    cases fuel with
    | zero => exact absurd enough (Nat.not_lt_zero _)
    | succ fuel =>
      have read := ih fuel (final ++ point ',' :: (further ++ (head :: tail ++ point '}' :: back)))
        (ends_gap gap (by decide)) (by omega)
      have others := rest fuel back (by omega)
      simp only [List.append_assoc, List.cons_append] at read others ⊢
      rw [readFields, if_pos rfl, named.reads (by omega)]
      simp only [ok_bind, skip_to before (show blank (point ':') = false by decide), skip_to behind opens, read,
        skip_to gap (show blank (point ',') = false by decide), skip_to apart starts, others, if_true]
      rfl

private theorem readValue_mark {outcome : Json × List Point}
    (read : readValue fuel (byteOrderMark :: rest) = .ok outcome) :
    False := by
  cases fuel with
  | zero => cases read
  | succ fuel =>
    rw [readValue, if_neg (by decide), if_neg (by decide), if_neg (by decide)] at read
    cases read

/-- A value with any gaps around it is the value of the whole text. -/
theorem Spells.loads {value : Json} (spells : Spells (.value value) text) (before : Gap space) (behind : Gap rest) :
    loads (space ++ (text ++ rest)) = .ok value := by
  obtain ⟨first, after, rfl, opens, -⟩ := spells.opens
  have ends : Ends rest := fun character here => .inl (behind character (List.mem_of_mem_head? here))
  have unmarked : (space ++ (first :: after ++ rest)).head? ≠ some byteOrderMark := by
    intro marked
    cases space with
    | nil =>
      obtain rfl := Option.some.inj marked
      have read := spells.read (2 * (byteOrderMark :: after).length) []
        (fun _ none => absurd none (Option.not_mem_none _)) (Nat.le_refl _)
      rw [List.append_nil] at read
      exact readValue_mark read
    | cons head tail =>
      obtain rfl := Option.some.inj marked
      exact absurd (before _ List.mem_cons_self) (by decide)
  have read := spells.read (2 * (space ++ (first :: after ++ rest)).length) rest ends (by
    simp only [List.length_append]
    omega)
  rw [Json.loads, if_neg unmarked, List.cons_append, skip_to before opens, ← List.cons_append, read, ok_bind]
  simp only [skip_all behind]
  rfl

end Complete

section Sound

variable {text rest tail power sign value : List Point} {held : Json} {character : Point} {unit fuel : Nat}

private theorem takeWhile_digit : ∀ character ∈ text.takeWhile digit, digit character = true :=
  fun _ member => List.mem_takeWhile_imp member

/-- What is skipped is a gap. -/
theorem skip_split (text : List Point) : ∃ space, Gap space ∧ text = space ++ skip text :=
  ⟨text.takeWhile blank, fun _ member => List.mem_takeWhile_imp member, List.takeWhile_append_dropWhile.symm⟩

theorem digits_cons {first : Point} (decimal : digit first = true) : Digits (first :: rest.takeWhile digit) :=
  ⟨List.cons_ne_nil _ _, List.forall_mem_cons.mpr ⟨decimal, takeWhile_digit⟩⟩

theorem readFraction_sound (read : readFraction text = (tail, rest)) : Fraction tail ∧ text = tail ++ rest := by
  unfold readFraction at read
  split at read
  · split at read
    · rename_i starts
      obtain ⟨rfl, decimal⟩ := starts
      obtain ⟨rfl, rfl⟩ := Prod.mk.inj read
      exact ⟨.some (digits_cons decimal), by simp⟩
    · obtain ⟨rfl, rfl⟩ := Prod.mk.inj read
      exact ⟨.none, rfl⟩
  · obtain ⟨rfl, rfl⟩ := Prod.mk.inj read
    exact ⟨.none, rfl⟩

theorem readExponent_sound (read : readExponent text = (power, rest)) : Exponent power ∧ text = power ++ rest := by
  unfold readExponent at read
  split at read
  · rename_i letter second third others
    split at read
    · rename_i opens
      split at read
      · rename_i decimal
        obtain ⟨rfl, rfl⟩ := Prod.mk.inj read
        have exponent : Exponent (letter :: ([] ++ second :: (third :: others).takeWhile digit)) :=
          .some opens (by simp) (digits_cons decimal)
        exact ⟨exponent, by simp⟩
      · split at read
        · rename_i starts
          obtain ⟨signed, decimal⟩ := starts
          obtain ⟨rfl, rfl⟩ := Prod.mk.inj read
          have exponent : Exponent (letter :: ([second] ++ third :: others.takeWhile digit)) :=
            .some opens (by simpa using signed) (digits_cons decimal)
          exact ⟨exponent, by simp⟩
        · obtain ⟨rfl, rfl⟩ := Prod.mk.inj read
          exact ⟨.none, rfl⟩
    · obtain ⟨rfl, rfl⟩ := Prod.mk.inj read
      exact ⟨.none, rfl⟩
  · rename_i letter second
    split at read
    · rename_i starts
      obtain ⟨opens, decimal⟩ := starts
      obtain ⟨rfl, rfl⟩ := Prod.mk.inj read
      have exponent : Exponent (letter :: ([] ++ second :: List.takeWhile digit [])) :=
        .some opens (by simp) (digits_cons decimal)
      exact ⟨exponent, rfl⟩
    · obtain ⟨rfl, rfl⟩ := Prod.mk.inj read
      exact ⟨.none, rfl⟩
  · obtain ⟨rfl, rfl⟩ := Prod.mk.inj read
    exact ⟨.none, rfl⟩

/-- What is read of an unsigned number, and where it ends. -/
theorem readUnsigned_sound (read : readUnsigned sign text = .ok (held, rest)) : ∃ whole tail power,
    Whole whole ∧ Fraction tail ∧ Exponent power ∧ text = whole ++ (tail ++ (power ++ rest)) ∧
      ((tail = [] ∧ power = []) ∧ whole.length ≤ maxDigits ∧
          held = .integer (if sign = [] then digitsValue whole else -(digitsValue whole : Int)) ∨
        ¬(tail = [] ∧ power = []) ∧ held = .decimal (sign ++ whole ++ tail ++ power)) := by
  cases text with
  | nil => cases read
  | cons first others =>
    rw [readUnsigned] at read
    split at read
    · rename_i decimal
      have whole : Whole (if first = point '0' then [first] else first :: others.takeWhile digit) := by
        split
        · rename_i zero
          exact ⟨⟨List.cons_ne_nil _ _, by simpa using decimal⟩, fun _ => by rw [zero]⟩
        · rename_i leading
          exact ⟨digits_cons decimal, fun zero => absurd (Option.some.inj zero) leading⟩
      have parted : first :: others = (if first = point '0' then [first] else first :: others.takeWhile digit) ++
          if first = point '0' then others else others.dropWhile digit := by
        split
        · rfl
        · rw [List.cons_append, List.takeWhile_append_dropWhile]
      dsimp only at read
      generalize (if first = point '0' then [first] else first :: others.takeWhile digit) = digits at read whole parted
      generalize (if first = point '0' then others else others.dropWhile digit) = behind at read parted
      obtain ⟨fraction, cut⟩ := readFraction_sound (Prod.eta (readFraction behind)).symm
      obtain ⟨exponent, ended⟩ := readExponent_sound (Prod.eta (readExponent (readFraction behind).2)).symm
      generalize readFraction behind = taken at read fraction cut exponent ended
      generalize readExponent taken.2 = ending at read exponent ended
      refine ⟨digits, taken.1, ending.1, whole, fraction, exponent, ?_⟩
      rw [parted, cut, ended]
      split at read
      · rename_i plain
        split at read
        · cases read
        · rename_i few
          obtain ⟨rfl, rfl⟩ := Prod.mk.inj (Except.ok.inj read)
          exact ⟨rfl, .inl ⟨plain, Nat.not_lt.mp few, rfl⟩⟩
      · rename_i either
        obtain ⟨rfl, rfl⟩ := Prod.mk.inj (Except.ok.inj read)
        exact ⟨rfl, .inr ⟨either, rfl⟩⟩
    · cases read

/-- Every value without brackets and quotes is a token. -/
theorem readPlain_sound (read : readPlain text = .ok (held, rest)) :
    ∃ token, Token token held ∧ text = token ++ rest := by
  have number {sign : List Point} (signed : sign = [] ∨ sign = [point '-']) (whole tail power : List Point)
      (digits : Whole whole) (fraction : Fraction tail) (exponent : Exponent power)
      (value : (tail = [] ∧ power = []) ∧ whole.length ≤ maxDigits ∧
          held = .integer (if sign = [] then digitsValue whole else -(digitsValue whole : Int)) ∨
        ¬(tail = [] ∧ power = []) ∧ held = .decimal (sign ++ whole ++ tail ++ power)) :
      Token (sign ++ whole ++ tail ++ power) held := by
    rcases value with ⟨⟨rfl, rfl⟩, few, rfl⟩ | ⟨either, rfl⟩
    · rw [List.append_nil, List.append_nil]
      rcases signed with rfl | rfl
      · exact .natural digits few
      · exact .negative digits few
    · exact .decimal signed digits fraction exponent either
  cases text with
  | nil => cases read
  | cons first others =>
    rw [readPlain] at read
    split at read
    · obtain ⟨whole, tail, power, digits, fraction, exponent, same, value⟩ := readUnsigned_sound read
      exact ⟨_, number (.inl rfl) whole tail power digits fraction exponent value, by simp [same]⟩
    · split at read
      · rename_i minus
        split at read
        · rename_i opens
          obtain ⟨after, rfl⟩ := List.isPrefixOf_iff_prefix.mp opens
          obtain ⟨rfl, rfl⟩ := Prod.mk.inj (Except.ok.inj read)
          exact ⟨_, .infinity, by rw [minus, List.drop_left]; rfl⟩
        · obtain ⟨whole, tail, power, digits, fraction, exponent, same, value⟩ := readUnsigned_sound read
          rw [minus] at value ⊢
          exact ⟨_, number (.inr rfl) whole tail power digits fraction exponent value, by simp [same]⟩
      · split at read
        · rename_i keyword found
          obtain ⟨rfl, rfl⟩ := Prod.mk.inj (Except.ok.inj read)
          have opens : keyword.1.isPrefixOf (first :: others) = true := by simpa using List.find?_some found
          obtain ⟨after, same⟩ := List.isPrefixOf_iff_prefix.mp opens
          exact ⟨keyword.1, .keyword (List.mem_of_find?_eq_some found), by rw [← same, List.drop_left]⟩
        · cases read

/-- What an escape stands for, and what follows it. -/
theorem readEscape_sound (read : readEscape text = some (character, rest)) :
    (∃ letter, named.lookup letter = some character ∧ text = letter :: rest) ∨
      ∃ first second third fourth unit behind, text = point 'u' :: first :: second :: third :: fourth :: behind ∧
        hexUnit first second third fourth = some unit ∧ joined unit behind = some (character, rest) := by
  unfold readEscape at read
  split at read
  · cases read
  · split at read
    · rename_i opens
      split at read
      · obtain ⟨unit, digits, joins⟩ := Option.bind_eq_some_iff.mp read
        exact .inr ⟨_, _, _, _, unit, _, by rw [opens], digits, joins⟩
      · cases read
    · obtain ⟨found, listed, same⟩ := Option.map_eq_some_iff.mp read
      obtain ⟨rfl, rfl⟩ := Prod.mk.inj same
      exact .inl ⟨_, listed, rfl⟩

/-- A unit is joined by the escape of a low surrogate, or stands for itself. -/
theorem joined_sound (read : joined unit text = some (character, rest)) :
    (∃ first second third fourth lower, High unit ∧ Low lower ∧ hexUnit first second third fourth = some lower ∧
        text = point '\\' :: point 'u' :: first :: second :: third :: fourth :: rest ∧
        character = pairPoint unit lower) ∨
      (High unit → ¬LowEscape text) ∧ text = rest ∧ character = unitPoint unit := by
  unfold joined at read
  split at read
  · split at read
    · rename_i joins
      obtain ⟨lower, upper, rfl, rfl⟩ := joins
      obtain ⟨low, digits, answered⟩ := Option.bind_eq_some_iff.mp read
      split at answered
      · rename_i within
        obtain ⟨rfl, rfl⟩ := Prod.mk.inj (Option.some.inj answered)
        exact .inl ⟨_, _, _, _, low, ⟨lower, upper⟩, within, digits, rfl, rfl⟩
      · rename_i outside
        obtain ⟨rfl, rfl⟩ := Prod.mk.inj (Option.some.inj answered)
        refine .inr ⟨fun _ escape => ?_, rfl, rfl⟩
        cases escape with
        | starts other low =>
          rw [digits] at other
          exact outside (Option.some.inj other ▸ low)
    · rename_i apart
      obtain ⟨rfl, rfl⟩ := Prod.mk.inj (Option.some.inj read)
      refine .inr ⟨fun high escape => ?_, rfl, rfl⟩
      cases escape
      exact apart ⟨high.1, high.2, rfl, rfl⟩
  · rename_i short
    obtain ⟨rfl, rfl⟩ := Prod.mk.inj (Option.some.inj read)
    refine .inr ⟨fun _ escape => ?_, rfl, rfl⟩
    cases escape
    exact short _ _ _ _ _ _ _ rfl

/-- Every string that is read is written in its escapes and characters. -/
theorem readString_sound (read : readString fuel text = .ok (value, rest)) :
    ∃ body, Written body value ∧ text = body ++ point '"' :: rest := by
  induction fuel generalizing text value with
  | zero => cases read
  | succ fuel ih =>
    cases text with
    | nil => cases read
    | cons first others =>
      rw [readString] at read
      split at read
      · rename_i closes
        obtain ⟨rfl, rfl⟩ := Prod.mk.inj (Except.ok.inj read)
        exact ⟨[], .nil, by rw [closes]; rfl⟩
      · rename_i open'
        split at read
        · cases read
        · rename_i printed
          split at read
          · rename_i backslash
            split at read
            · cases read
            · rename_i escaped taken
              obtain ⟨whole, inside, same⟩ := bind_ok.mp read
              obtain ⟨rfl, rfl⟩ := Prod.mk.inj (Except.ok.inj same)
              obtain ⟨body, written, behind⟩ := ih inside
              rcases readEscape_sound taken with ⟨letter, listed, rfl⟩ |
                ⟨second, third, fourth, fifth, unit, after, rfl, digits, joins⟩
              · exact ⟨_, .letter listed written, by rw [backslash, behind]; rfl⟩
              · rcases joined_sound joins with
                  ⟨sixth, seventh, eighth, ninth, lower, high, low, others, rfl, pair⟩ | ⟨alone, rfl, lone⟩
                · rw [pair]
                  exact ⟨_, .pair digits high others low written, by rw [backslash, behind]; rfl⟩
                · rw [lone]
                  refine ⟨_, .unit digits (fun high escape => alone high ?_) written, by rw [backslash, behind]; rfl⟩
                  rw [behind]
                  cases escape with
                  | starts digits low => exact .starts digits low
          · rename_i unescaped
            obtain ⟨whole, inside, same⟩ := bind_ok.mp read
            obtain ⟨rfl, rfl⟩ := Prod.mk.inj (Except.ok.inj same)
            obtain ⟨body, written, behind⟩ := ih inside
            exact ⟨_, .kept open' (Nat.not_lt.mp printed) unescaped written, by rw [behind]; rfl⟩

/-- What is read of a text spells the value read. -/
structure Reads (fuel : Nat) : Prop where
  value : ∀ text held rest, readValue fuel text = .ok (held, rest) →
    ∃ spelled, Spells (.value held) spelled ∧ text = spelled ++ rest
  elements : ∀ text held rest, readElements fuel text = .ok (held, rest) →
    ∃ spelled, Spells (.elements held) spelled ∧ text = spelled ++ point ']' :: rest
  fields : ∀ text held rest, readFields fuel text = .ok (held, rest) →
    ∃ spelled, Spells (.fields held) spelled ∧ text = spelled ++ point '}' :: rest

theorem readValue_sound (reads : Reads fuel) (read : readValue (fuel + 1) text = .ok (held, rest)) :
    ∃ spelled, Spells (.value held) spelled ∧ text = spelled ++ rest := by
  cases text with
  | nil => cases read
  | cons first others =>
    obtain ⟨space, gap, leads⟩ := skip_split others
    rw [readValue] at read
    split at read
    · rename_i opens
      obtain ⟨whole, inside, same⟩ := bind_ok.mp read
      obtain ⟨rfl, rfl⟩ := Prod.mk.inj (Except.ok.inj same)
      obtain ⟨body, written, behind⟩ := readString_sound inside
      exact ⟨_, .string written, by rw [opens, behind]; simp⟩
    · split at read
      · rename_i opens
        split at read
        · cases read
        · rename_i next after skipped
          split at read
          · rename_i closes
            obtain ⟨rfl, rfl⟩ := Prod.mk.inj (Except.ok.inj read)
            exact ⟨_, .emptyArray gap, by rw [opens, leads, skipped, closes]; simp⟩
          · obtain ⟨whole, inside, same⟩ := bind_ok.mp read
            obtain ⟨rfl, rfl⟩ := Prod.mk.inj (Except.ok.inj same)
            obtain ⟨spelled, spells, behind⟩ := reads.elements _ _ _ inside
            exact ⟨_, .array gap spells, by rw [opens, leads, skipped, behind]; simp⟩
      · split at read
        · rename_i opens
          split at read
          · cases read
          · rename_i next after skipped
            split at read
            · rename_i closes
              obtain ⟨rfl, rfl⟩ := Prod.mk.inj (Except.ok.inj read)
              exact ⟨_, .emptyObject gap, by rw [opens, leads, skipped, closes]; simp⟩
            · obtain ⟨whole, inside, same⟩ := bind_ok.mp read
              obtain ⟨rfl, rfl⟩ := Prod.mk.inj (Except.ok.inj same)
              obtain ⟨spelled, spells, behind⟩ := reads.fields _ _ _ inside
              exact ⟨_, .object gap spells, by rw [opens, leads, skipped, behind]; simp⟩
        · obtain ⟨token, spells, same⟩ := readPlain_sound read
          exact ⟨token, .plain spells, same⟩

theorem readElements_sound {held : List Json} (reads : Reads fuel)
    (read : readElements (fuel + 1) text = .ok (held, rest)) :
    ∃ spelled, Spells (.elements held) spelled ∧ text = spelled ++ point ']' :: rest := by
  rw [readElements] at read
  obtain ⟨element, inside, answered⟩ := bind_ok.mp read
  obtain ⟨spelled, spells, same⟩ := reads.value _ _ _ inside
  obtain ⟨space, gap, leads⟩ := skip_split element.2
  split at answered
  · cases answered
  · rename_i next after skipped
    split at answered
    · rename_i closes
      obtain ⟨rfl, rfl⟩ := Prod.mk.inj (Except.ok.inj answered)
      exact ⟨_, .last spells gap, by rw [same, leads, skipped, closes]; simp⟩
    · split at answered
      · rename_i comma
        obtain ⟨whole, further, returned⟩ := bind_ok.mp answered
        obtain ⟨rfl, rfl⟩ := Prod.mk.inj (Except.ok.inj returned)
        obtain ⟨others, later, behind⟩ := reads.elements _ _ _ further
        obtain ⟨apart, wide, parted⟩ := skip_split after
        exact ⟨_, .more spells gap wide later, by rw [same, leads, skipped, comma, parted, behind]; simp⟩
      · cases answered

private theorem readFields_sound {held : List (List Point × Json)} (reads : Reads fuel)
    (read : readFields (fuel + 1) text = .ok (held, rest)) :
    ∃ spelled, Spells (.fields held) spelled ∧ text = spelled ++ point '}' :: rest := by
  cases text with
  | nil => cases read
  | cons first others =>
    rw [readFields] at read
    split at read
    · rename_i opens
      obtain ⟨name, named, answered⟩ := bind_ok.mp read
      obtain ⟨body, written, quoted⟩ := readString_sound named
      obtain ⟨space, gap, leads⟩ := skip_split name.2
      split at answered
      · cases answered
      · rename_i colon behind skipped
        split at answered
        · rename_i divides
          obtain ⟨element, inside, answered⟩ := bind_ok.mp answered
          obtain ⟨wide, spaced, parted⟩ := skip_split behind
          obtain ⟨spelled, spells, same⟩ := reads.value _ _ _ inside
          obtain ⟨final, ending, cut⟩ := skip_split element.2
          split at answered
          · cases answered
          · rename_i next after left
            split at answered
            · rename_i closes
              obtain ⟨rfl, rfl⟩ := Prod.mk.inj (Except.ok.inj answered)
              refine ⟨_, .lastField written gap spaced spells ending, ?_⟩
              rw [opens, quoted, leads, skipped, divides, parted, same, cut, left, closes]
              simp
            · split at answered
              · rename_i comma
                obtain ⟨whole, further, returned⟩ := bind_ok.mp answered
                obtain ⟨rfl, rfl⟩ := Prod.mk.inj (Except.ok.inj returned)
                obtain ⟨others, later, last⟩ := reads.fields _ _ _ further
                obtain ⟨apart, between, more⟩ := skip_split after
                refine ⟨_, .moreFields written gap spaced spells ending between later, ?_⟩
                rw [opens, quoted, leads, skipped, divides, parted, same, cut, left, comma, more, last]
                simp
              · cases answered
        · cases answered
    · cases read

private theorem reads_sound (fuel : Nat) : Reads fuel := by
  induction fuel with
  | zero =>
    constructor
    all_goals
      intro text held rest read
      cases read
  | succ fuel ih =>
    exact ⟨fun _ _ _ => readValue_sound ih, fun _ _ _ => readElements_sound ih, fun _ _ _ => readFields_sound ih⟩

/-- The texts of a value are those that spell it, with any gaps around it. -/
theorem loads_iff : loads text = .ok held ↔ ∃ before spelling behind, text = before ++ (spelling ++ behind) ∧
    Gap before ∧ Spells (.value held) spelling ∧ Gap behind := by
  constructor
  · intro loaded
    rw [loads] at loaded
    split at loaded
    · cases loaded
    · obtain ⟨whole, read, ended⟩ := bind_ok.mp loaded
      split at ended
      · rename_i nothing
        obtain rfl := Except.ok.inj ended
        obtain ⟨before, leading, split⟩ := skip_split text
        obtain ⟨spelling, spells, same⟩ := (reads_sound _).value _ _ _ read
        obtain ⟨behind, trailing, rest⟩ := skip_split whole.2
        rw [nothing, List.append_nil] at rest
        exact ⟨before, spelling, behind, by rw [split, same, rest], leading, spells, trailing⟩
      · cases ended
  · rintro ⟨before, spelling, behind, rfl, leading, spells, trailing⟩
    exact spells.loads leading trailing

end Sound

end CanX.Numeric.Json
