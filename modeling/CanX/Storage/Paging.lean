import Mathlib.Data.List.Infix
import Mathlib.Order.Lattice

/-! Pages cut from a list with ascending keys that may grow at its end between two requests. A request names the key
of the last item that was handed out. -/

namespace CanX.Storage

universe u v

variable {Item : Type u} {Key : Type v}

structure Page (Item : Type u) (Key : Type v) where
  items : List Item
  hasMore : Bool
  next : Option Key

/-- The items handed out, in the order of the requests. -/
def handedOut (requests : List (List Item × Page Item Key)) : List Item := requests.flatMap fun entry => entry.2.items

theorem handedOut_snoc (requests : List (List Item × Page Item Key)) (entry : List Item × Page Item Key) :
    handedOut (requests ++ [entry]) = handedOut requests ++ entry.2.items := by
  simp [handedOut]

section Pages

variable [LinearOrder Key] {key : Item → Key} {limit : Nat} {cursor : Option Key} {items got rest : List Item}

/-- The items beyond a cursor. -/
def beyond (key : Item → Key) (cursor : Option Key) (items : List Item) : List Item :=
  items.filter fun item => cursor.all fun held => decide (held < key item)

/-- At most `limit` of the items beyond a cursor, and the key to go on from if there are more. -/
def pageAfter (key : Item → Key) (limit : Nat) (cursor : Option Key) (items : List Item) : Page Item Key :=
  let hasMore := decide (limit < (beyond key cursor items).length)
  let page := (beyond key cursor items).take limit
  ⟨page, hasMore, if hasMore then page.getLast?.map key else none⟩

abbrev Ascending (key : Item → Key) (items : List Item) : Prop :=
  items.Pairwise fun first second => key first < key second

theorem Ascending.head_le {first item : Item} (ascending : Ascending key items) (head : items.head? = some first)
    (member : item ∈ items) : key first ≤ key item := by
  cases items with
  | nil => cases member
  | cons lead rest =>
    obtain rfl := Option.some.inj head
    rcases List.mem_cons.mp member with rfl | later
    · exact le_rfl
    · exact ((List.pairwise_cons.mp ascending).1 item later).le

theorem Ascending.le_last {last item : Item} (ascending : Ascending key items) (tail : items.getLast? = some last)
    (member : item ∈ items) : key item ≤ key last := by
  obtain ⟨earlier, rfl⟩ := List.getLast?_eq_some_iff.mp tail
  rcases List.mem_append.mp member with before | same
  · exact ((List.pairwise_append.mp ascending).2.2 item before last (List.mem_singleton_self last)).le
  · rw [List.mem_singleton.mp same]

/-- Beyond the last key handed out is what has not been handed out. -/
theorem beyond_rest (ascending : Ascending key (got ++ rest)) :
    beyond key (got.getLast?.map key) (got ++ rest) = rest := by
  rcases List.eq_nil_or_concat got with rfl | ⟨earlier, last, rfl⟩
  · exact List.filter_eq_self.mpr fun _ _ => rfl
  · rw [List.concat_eq_append] at ascending ⊢
    obtain ⟨inside, _, across⟩ := List.pairwise_append.mp ascending
    have lastMember : last ∈ earlier ++ [last] := List.mem_append_right _ (List.mem_singleton_self last)
    have dropped : (earlier ++ [last]).filter (fun item => decide (key last < key item)) = [] := by
      refine List.filter_eq_nil_iff.mpr fun item member above => ?_
      have later := of_decide_eq_true above
      rcases List.mem_append.mp member with before | same
      · have earlierFirst := (List.pairwise_append.mp inside).2.2 item before last (List.mem_singleton_self last)
        exact lt_asymm later earlierFirst
      · rw [List.mem_singleton.mp same] at later
        exact lt_irrefl _ later
    have kept : rest.filter (fun item => decide (key last < key item)) = rest :=
      List.filter_eq_self.mpr fun item member => decide_eq_true (across last lastMember item member)
    rw [beyond, List.getLast?_concat, Option.map_some, List.filter_append]
    simp only [Option.all_some]
    rw [dropped, kept, List.nil_append]

/-- What one more request hands out. -/
structure Continued (key : Item → Key) (limit : Nat) (items got : List Item) (page : Page Item Key) : Prop where
  begins : got ++ page.items <+: items
  bounded : page.items.length ≤ limit
  goes_on : page.hasMore = true → page.items.length = limit ∧ (got ++ page.items).length < items.length ∧
    page.next = (got ++ page.items).getLast?.map key
  ends : page.hasMore = false → got ++ page.items = items

private theorem pageAfter_continued (positive : 0 < limit) (ascending : Ascending key items) (begun : got <+: items) :
    Continued key limit items got (pageAfter key limit (got.getLast?.map key) items) := by
  obtain ⟨rest, rfl⟩ := begun
  have left := beyond_rest ascending
  simp only [pageAfter, left]
  refine ⟨?_, List.length_take_le _ _, fun more => ?_, fun last => ?_⟩
  · exact (List.prefix_append_right_inj got).mpr (List.take_prefix _ _)
  · have longer := of_decide_eq_true more
    have whole : (rest.take limit).length = limit := List.length_take_of_le longer.le
    refine ⟨whole, ?_, ?_⟩
    · rw [List.length_append, List.length_append, whole]
      omega
    · have nonempty : rest.take limit ≠ [] := by
        intro empty
        rw [empty] at whole
        exact positive.ne whole
      rw [if_pos more, List.getLast?_append, List.getLast?_eq_some_getLast nonempty]
      rfl
  · have fits := of_decide_eq_false last
    rw [List.take_of_length_le (by omega)]

end Pages

section Logs

variable [LinearOrder Key] {key : Item → Key} {limit : Nat} {cursor : Option Key} {hasMore : Bool}
variable {requests : List (List Item × Page Item Key)}

/-- Requests one after the other until there is nothing more, with the items as they were at each; what is known to
be going on from is the cursor. -/
inductive Requested (key : Item → Key) (limit : Nat) : List (List Item × Page Item Key) → Option Key → Bool → Prop
  | start : Requested key limit [] none true
  | next {requests : List (List Item × Page Item Key)} {cursor : Option Key} {items : List Item}
      (before : Requested key limit requests cursor true) (ascending : Ascending key items)
      (grown : ∀ entry ∈ requests, entry.1 <+: items) :
      Requested key limit (requests ++ [(items, pageAfter key limit cursor items)])
        (pageAfter key limit cursor items).next (pageAfter key limit cursor items).hasMore

/-- Every page is bounded; together they begin the items of the last request, are all of them once there is nothing
more, and are full as long as there is. -/
structure Exact (key : Item → Key) (limit : Nat) (requests : List (List Item × Page Item Key)) (cursor : Option Key)
    (hasMore : Bool) : Prop where
  bounded : ∀ entry ∈ requests, entry.2.items.length ≤ limit
  begins : ∀ entry ∈ requests.getLast?, handedOut requests <+: entry.1
  covers : hasMore = false → ∀ entry ∈ requests.getLast?, handedOut requests = entry.1
  full : hasMore = true → (handedOut requests).length = limit * requests.length ∧
    ∀ entry ∈ requests.getLast?, (handedOut requests).length < entry.1.length
  cursor : hasMore = true → cursor = (handedOut requests).getLast?.map key

theorem Requested.exact (requested : Requested key limit requests cursor hasMore) (positive : 0 < limit) :
    Exact key limit requests cursor hasMore := by
  induction requested with
  | start => exact ⟨by simp, by simp, by simp, by simp [handedOut], fun _ => rfl⟩
  | @next requests cursor items before ascending grown ih =>
    have begun : handedOut requests <+: items := by
      cases last : requests.getLast? with
      | none =>
        rw [List.getLast?_eq_none_iff.mp last]
        exact List.nil_prefix
      | some entry => exact (ih.begins entry last).trans (grown entry (List.mem_of_getLast? last))
    have continued := pageAfter_continued positive ascending begun
    rw [← ih.cursor rfl] at continued
    generalize pageAfter key limit cursor items = page at continued
    have final (entry : List Item × Page Item Key)
        (last : entry ∈ (requests ++ [(items, page)]).getLast?) : entry = (items, page) := by
      rw [List.getLast?_concat] at last
      exact (Option.some.inj last).symm
    refine ⟨fun entry member => ?_, fun entry last => ?_, fun ended entry last => ?_,
      fun more => ⟨?_, fun entry last => ?_⟩, fun more => ?_⟩
    · rcases List.mem_append.mp member with earlier | added
      · exact ih.bounded entry earlier
      · rw [List.mem_singleton.mp added]
        exact continued.bounded
    · rw [final entry last, handedOut_snoc]
      exact continued.begins
    · rw [final entry last, handedOut_snoc]
      exact continued.ends ended
    · rw [handedOut_snoc, List.length_append, (ih.full rfl).1, (continued.goes_on more).1, List.length_append,
        List.length_singleton, Nat.mul_succ]
    · rw [final entry last, handedOut_snoc]
      exact (continued.goes_on more).2.1
    · rw [handedOut_snoc]
      exact (continued.goes_on more).2.2

/-- There is more to come until a request was answered. -/
theorem Requested.nonempty (requested : Requested key limit requests cursor hasMore) (ended : hasMore = false) :
    requests ≠ [] := by
  cases requested with
  | start => cases ended
  | next => exact List.append_ne_nil_of_right_ne_nil _ (List.cons_ne_nil _ _)

/-- The items of the first request are handed out before any that came later. -/
theorem Requested.first_begins (requested : Requested key limit requests cursor hasMore)
    {first last : List Item × Page Item Key} (head : first ∈ requests.head?) (tail : last ∈ requests.getLast?) :
    first.1 <+: last.1 := by
  cases requested with
  | start => cases head
  | @next requests cursor items before ascending grown =>
    rw [List.getLast?_concat] at tail
    obtain rfl := Option.some.inj tail
    cases requests with
    | nil =>
      obtain rfl := Option.some.inj head
      exact List.prefix_rfl
    | cons entry rest =>
      obtain rfl := Option.some.inj head
      exact grown entry List.mem_cons_self

end Logs

end CanX.Storage
