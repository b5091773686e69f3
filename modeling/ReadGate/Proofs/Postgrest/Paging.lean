import ReadGate.Proofs.Postgrest.Serving
import ReadGate.Proofs.Value.Decoding

/-!
# Paging loses, repeats and reorders nothing

Three bounds meet in the loop over pages: the size of a page, what is left of the limit, and the cap
of the endpoint.  Whichever of them is the least, the records fetched so far are always the first
rows of the endpoint, and the loop ends with as many of them as are wanted.

* `take_append_page` — one page more is a longer prefix of the rows.
* `more_conforming`, `pages_conforming` — the loop, by induction on the rows that are not fetched.
* `pages_of_long_total` — the loop does not begin if the total has too many digits.
-/

namespace ReadGate.Postgrest

open Run

variable {σ : Type} {c : Client σ} {h : Holding}

/-! ## The rows that are wanted -/

/-- The rows up to a limit. -/
def Holding.upTo (h : Holding) (limit : Option Nat) : List Row :=
  match limit with
  | some n => h.rows.take n
  | none => h.rows

theorem Holding.mem_of_mem_upTo (h : Holding) {limit : Option Nat} {row : Row}
    (hrow : row ∈ h.upTo limit) : row ∈ h.rows := by
  cases limit with
  | none => exact hrow
  | some n => exact List.mem_of_mem_take hrow

/-- One page more is a longer prefix of the rows. -/
theorem take_append_page (h : Holding) (width k : Nat) :
    h.rows.take k ++ h.page width k = h.rows.take (k + min width h.cap) := by
  rw [Holding.page, ← List.take_add]

theorem wantsMore_iff {limit : Option Nat} {count : Nat} :
    wantsMore (limit.map Int.ofNat) count = true ↔ ∀ n ∈ limit, count < n := by
  cases limit with
  | none => simp [wantsMore]
  | some n => simp [wantsMore]

/-- A prefix that is all that is there, or all that is wanted, is what the limit says. -/
theorem take_eq_upTo {limit : Option Nat} {k : Nat} (hk : ∀ n ∈ limit, k ≤ n)
    (hend : h.rows.length ≤ k ∨ limit = some k) : h.rows.take k = h.upTo limit := by
  rcases hend with hall | rfl
  · rw [List.take_of_length_le hall]
    cases limit with
    | none => rfl
    | some n => exact (List.take_of_length_le (Nat.le_trans hall (hk n rfl))).symm
  · rfl

/-- While rows are wanted, the next page has a width, and does not go beyond the limit. -/
theorem pageLimit_width (hsize : 1 ≤ c.endpoint.pageSize.value) {limit : Option Nat} {offset : Nat}
    (hmore : ∀ n ∈ limit, offset < n) :
    ∃ width : Nat, c.pageLimit (limit.map Int.ofNat) offset = width ∧ 0 < width ∧
      ∀ n ∈ limit, offset + width ≤ n := by
  cases limit with
  | none =>
    refine ⟨c.endpoint.pageSize.value.toNat, ?_, by omega, nofun⟩
    show c.endpoint.pageSize.value = _
    omega
  | some n =>
    have hn := hmore n rfl
    refine ⟨(min c.endpoint.pageSize.value (n - offset)).toNat, ?_, by omega, ?_⟩
    · show min c.endpoint.pageSize.value ((n : Int) - offset) = _
      omega
    · rintro m ⟨⟩
      omega

/-! ## The loop -/

theorem itemsOrNone_list (items : List Value) : (Value.list items).itemsOrNone = .ok items := by
  cases items <;> rfl

/-- One round of the loop, as an equation. -/
theorem more_round (source : Source) (limit : Option Int) (total : Int) (records : List Value)
    (w : World (Wire σ)) (hgo : (records.length : Int) < total ∧ wantsMore limit records.length) :
    c.more source limit total records w =
      match c.fetch source limit records.length w with
      | (.ok (content, _), w) =>
        match content.itemsOrNone with
        | .ok [] => (.ok records, w)
        | .ok (first :: rest) => c.more source limit total (records ++ first :: rest) w
        | .error m => (.error (.mishap m), w)
      | (.error t, w) => (.error t, w) := by
  rw [Client.more, dif_pos hgo, bind_apply]
  rcases c.fetch source limit records.length w with ⟨t | ⟨content, reply⟩, w₁⟩
  · rfl
  · simp only [bind_apply]
    rcases content.itemsOrNone with m | _ | ⟨first, rest⟩ <;> rfl

theorem more_done (source : Source) (limit : Option Int) (total : Int) (records : List Value)
    (w : World (Wire σ))
    (hstop : ¬ ((records.length : Int) < total ∧ wantsMore limit records.length)) :
    c.more source limit total records w = (.ok records, w) := by
  rw [Client.more, dif_neg hstop, pure_apply]

/-- **The loop goes on from any prefix of the rows to all that are wanted.** -/
theorem more_conforming (hconf : Conforms c.transport h) (hsize : 1 ≤ c.endpoint.pageSize.value)
    {source : Source} {limit : Option Nat} {k : Nat} {w : World (Wire σ)}
    (hk : ∀ n ∈ limit, k ≤ n) (hcalm : Undisturbed source.guarded w c.transport) :
    ∃ w', c.more source (limit.map Int.ofNat) h.rows.length ((h.rows.take k).map .record) w =
      (.ok ((h.upTo limit).map .record), w') := by
  -- the induction is on the rows behind the prefix, which every page makes fewer
  generalize hn : h.rows.length - k = n
  induction n using Nat.strongRecOn generalizing k w with
  | ind n ih =>
    have hlen : ((h.rows.take k).map Value.record).length = min k h.rows.length := by simp
    by_cases hgo : k < h.rows.length ∧ ∀ n ∈ limit, k < n
    · obtain ⟨hrows, hmore⟩ := hgo
      have hmin : min k h.rows.length = k := Nat.min_eq_left (Nat.le_of_lt hrows)
      obtain ⟨width, hwidth, hpos, hbound⟩ := pageLimit_width hsize hmore
      obtain ⟨reply, w₁, hfetch, hcalm₁, -⟩ := fetch_conforming hconf hcalm hwidth
      have hcap := h.cap_pos
      have hbound' : ∀ n ∈ limit, k + min width h.cap ≤ n := fun n hn => by
        have := hbound n hn
        omega
      obtain ⟨w', hrest⟩ := ih _ (by omega) hbound' hcalm₁ rfl
      refine ⟨w', ?_⟩
      rw [more_round _ _ _ _ _ (by rw [hlen, hmin, wantsMore_iff]; exact ⟨by omega, hmore⟩), hlen,
        hmin, hfetch]
      simp only [itemsOrNone_list]
      rcases hpage : (h.page width k).map Value.record with _ | ⟨first, rest⟩
      · -- a page with a width is not empty before the last row
        have hzero := congrArg List.length hpage
        simp only [Holding.page, List.length_map, List.length_take, List.length_drop,
          List.length_nil] at hzero
        omega
      · rw [← hrest, ← take_append_page, List.map_append, hpage]
    · refine ⟨w, ?_⟩
      have hend : h.rows.length ≤ k ∨ limit = some k := by
        by_cases hrows : k < h.rows.length
        · right
          cases limit with
          | none => exact absurd ⟨hrows, nofun⟩ hgo
          | some n =>
            have hkn := hk n rfl
            have hnot : ¬ k < n := fun hlt => hgo ⟨hrows, by rintro m ⟨⟩; exact hlt⟩
            rw [show n = k by omega]
        · left
          omega
      rw [more_done, take_eq_upTo hk hend]
      rw [hlen, wantsMore_iff]
      rintro ⟨hlt, hmore⟩
      refine hgo ⟨by omega, fun n hn => ?_⟩
      have := hmore n hn
      omega

/-- A limit is zero, or rows are wanted at once. -/
theorem zero_or_wanted (limit : Option Nat) : limit = some 0 ∨ ∀ n ∈ limit, 0 < n := by
  rcases limit with _ | _ | n
  · exact .inr nofun
  · exact .inl rfl
  · refine .inr ?_
    rintro m ⟨⟩
    exact Nat.succ_pos n

/-- All pages together are the rows that are wanted. -/
theorem pages_conforming (hconf : Conforms c.transport h) (hsize : 1 ≤ c.endpoint.pageSize.value)
    (source : Source) {limit : Option Nat} {w : World (Wire σ)}
    (hcalm : Undisturbed source.guarded w c.transport)
    (htotal : limit ≠ some 0 → Numeral.IsShort h.rows.length) :
    ∃ total w', c.pages source (limit.map Int.ofNat) w =
      (.ok ((h.upTo limit).map .record, total), w') := by
  unfold Client.pages
  rcases zero_or_wanted limit with rfl | hmore
  · exact ⟨none, w, rfl⟩
  · have hne : limit ≠ some 0 := by
      rintro rfl
      exact absurd (hmore 0 rfl) (Nat.lt_irrefl 0)
    obtain ⟨width, hwidth, hpos, hbound⟩ := pageLimit_width hsize hmore
    obtain ⟨reply, w₁, hfetch, hcalm₁, hbrings⟩ := fetch_conforming hconf hcalm hwidth
    obtain ⟨range, hrange, hheader⟩ := hbrings.total
    have hread := (@totalOf_announced _ _ h.rows.length hrange hheader).1 (htotal hne)
    have hcap := h.cap_pos
    have hfront : h.page width 0 = h.rows.take (min width h.cap) := by
      simpa using take_append_page h width 0
    rw [if_pos (wantsMore_iff.2 hmore)]
    simp only [bind_apply, hfetch, hread, mk_apply, itemsOrNone_list, lift_ok]
    cases hpage : ((h.page width 0).map Value.record).isEmpty with
    | true =>
      have hnil : h.rows = [] := by
        rw [hfront, List.isEmpty_iff, List.map_eq_nil_iff, List.take_eq_nil_iff] at hpage
        exact hpage.resolve_left (by omega)
      have hupTo : h.upTo limit = [] := by
        cases limit <;> simp [Holding.upTo, hnil]
      rw [hupTo]
      exact ⟨_, w₁, rfl⟩
    | false =>
      have hfirst : ∀ n ∈ limit, min width h.cap ≤ n := fun n hn => by
        have := hbound n hn
        omega
      obtain ⟨w', hrest⟩ := more_conforming hconf hsize hfirst hcalm₁
      rw [← hfront] at hrest
      refine ⟨some (h.rows.length : Int), w', ?_⟩
      simp only [Bool.false_eq_true, if_false, bind_apply, hrest, pure_apply]

/-- A total with too many digits ends the loop before it begins. -/
theorem pages_of_long_total (hconf : Conforms c.transport h) (hsize : 1 ≤ c.endpoint.pageSize.value)
    (source : Source) {limit : Option Nat} {w : World (Wire σ)}
    (hcalm : Undisturbed source.guarded w c.transport) (hne : limit ≠ some 0)
    (hlong : ¬ Numeral.IsShort h.rows.length) :
    ∃ e w', c.pages source (limit.map Int.ofNat) w = (.error (.mishap (.numeral e)), w') := by
  have hmore := (zero_or_wanted limit).resolve_left hne
  obtain ⟨width, hwidth, -, -⟩ := pageLimit_width hsize hmore
  obtain ⟨reply, w₁, hfetch, -, hbrings⟩ := fetch_conforming hconf hcalm hwidth
  obtain ⟨range, hrange, hheader⟩ := hbrings.total
  obtain ⟨e, hread⟩ := (@totalOf_announced _ _ h.rows.length hrange hheader).2 hlong
  refine ⟨e, w₁, ?_⟩
  unfold Client.pages
  rw [if_pos (wantsMore_iff.2 hmore)]
  simp only [bind_apply, hfetch, hread, mk_apply]

end ReadGate.Postgrest
