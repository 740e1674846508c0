import LibcdioRs.Shared.Prog

/-!
# Foreign memory and who owns it

Foreign objects live in a `Heap`, a partial map from handles to what they hold.
An `Api` says of each call when it is allowed, which objects it makes and which
it frees; it leaves all others alone. `Owns` lists a caller's objects: it has
each of them once, and its heap holds no others.

An `Api` is `Local` if no call looks beyond the caller's own objects. Such calls
do the same within any larger heap (`Api.Local.frame`).
-/

namespace Foreign

set_option autoImplicit false

abbrev Heap (H V : Type) : Type := H → Option V

variable {C : Type} {R : C → Type} {H V : Type}

namespace Heap

def empty : Heap H V := fun _ => none

def Live (s : Heap H V) (h : H) : Prop := s h ≠ none

/-- `s` is a part of `t`. -/
def Within (s t : Heap H V) : Prop := ∀ h v, s h = some v → t h = some v

open Classical in
noncomputable def part (t : Heap H V) (p : H → Prop) : Heap H V :=
  fun h => if p h then t h else none

def erase [DecidableEq H] (s : Heap H V) (gone : List H) : Heap H V :=
  fun h => if h ∈ gone then none else s h

def add [DecidableEq H] (s : Heap H V) (made : List (H × V)) : Heap H V :=
  fun h => (made.lookup h).or (s h)

/-- The heap that holds just these objects. -/
def ofCells [DecidableEq H] (cells : List (H × V)) : Heap H V := fun h => cells.lookup h

@[simp] theorem not_live_empty (h : H) : ¬ (empty : Heap H V).Live h := fun hl => hl rfl

theorem live_iff {s : Heap H V} {h : H} : s.Live h ↔ ∃ v, s h = some v := Option.ne_none_iff_exists'

theorem live_of_eq {s : Heap H V} {h : H} {v : V} (hs : s h = some v) : s.Live h :=
  live_iff.mpr ⟨v, hs⟩

theorem Within.live {s t : Heap H V} (hw : s.Within t) {h : H} (hs : s.Live h) : t.Live h := by
  obtain ⟨v, hv⟩ := live_iff.mp hs
  exact live_of_eq (hw h v hv)

theorem Within.eq {s t : Heap H V} (hw : s.Within t) {h : H} (hs : s.Live h) : t h = s h := by
  obtain ⟨v, hv⟩ := live_iff.mp hs
  rw [hv, hw h v hv]

theorem lookup_of_not_mem [DecidableEq H] {cells : List (H × V)} {h : H}
    (hh : h ∉ cells.map Prod.fst) : cells.lookup h = none := by
  rw [List.lookup_eq_none_iff]
  intro x hx
  rw [bne_iff_ne]
  rintro rfl
  exact hh (List.mem_map_of_mem hx)

theorem mem_iff_lookup [DecidableEq H] {cells : List (H × V)} (hn : (cells.map Prod.fst).Nodup)
    (h : H) (v : V) : (h, v) ∈ cells ↔ cells.lookup h = some v := by
  induction cells with
  | nil => exact iff_of_false List.not_mem_nil nofun
  | cons x cells ih =>
    obtain ⟨k, w⟩ := x
    obtain ⟨hk, hn'⟩ := List.nodup_cons.mp hn
    rw [List.mem_cons, List.lookup_cons]
    by_cases heq : h = k
    · subst heq
      have hnot : (h, v) ∉ cells := by
        intro hm
        exact hk (List.mem_map.mpr ⟨(h, v), hm, rfl⟩)
      rw [or_iff_left hnot, beq_self_eq_true]
      simp [eq_comm]
    · have hne : (h, v) ≠ (k, w) := fun he => heq (congrArg Prod.fst he)
      rw [or_iff_right hne, ih hn', beq_eq_false_iff_ne.mpr heq]

theorem lookup_of_mem [DecidableEq H] {cells : List (H × V)} (hn : (cells.map Prod.fst).Nodup)
    {x : H × V} (hx : x ∈ cells) : cells.lookup x.1 = some x.2 := (mem_iff_lookup hn x.1 x.2).mp hx

theorem part_pos {t : Heap H V} {p : H → Prop} {h : H} (hp : p h) : t.part p h = t h := if_pos hp

theorem part_neg {t : Heap H V} {p : H → Prop} {h : H} (hp : ¬ p h) : t.part p h = none := if_neg hp

end Heap

/-- The objects of `made` are new, those of `gone` are freed, nothing else has changed. -/
structure Change (made : List (H × V)) (gone : List H) (s s' : Heap H V) : Prop where
  nodup : (made.map Prod.fst).Nodup
  fresh : ∀ x ∈ made, s x.1 = none
  holds : ∀ x ∈ made, s' x.1 = some x.2
  freed : ∀ h ∈ gone, s' h = none
  same : ∀ h, h ∉ made.map Prod.fst → h ∉ gone → s' h = s h

namespace Change
variable {made : List (H × V)} {gone : List H} {s s' : Heap H V}

theorem keeps (hc : Change made gone s s') {h : H} (hs : s.Live h) (hg : h ∉ gone) :
    s' h = s h := by
  apply hc.same h _ hg
  intro hm
  obtain ⟨x, hx, rfl⟩ := List.mem_map.mp hm
  exact hs (hc.fresh x hx)

theorem eq_of_nil (hc : Change [] [] s s') : s' = s :=
  funext fun h => hc.same h List.not_mem_nil List.not_mem_nil

theorem freeing [DecidableEq H] (gone : List H) (s : Heap H V) :
    Change [] gone s (s.erase gone) where
  nodup := List.nodup_nil
  fresh := nofun
  holds := nofun
  freed _ hh := if_pos hh
  same _ _ hn := if_neg hn

theorem add_erase [DecidableEq H] (hn : (made.map Prod.fst).Nodup) (hf : ∀ x ∈ made, s x.1 = none)
    (hg : ∀ h ∈ gone, h ∉ made.map Prod.fst) : Change made gone s ((s.erase gone).add made) where
  nodup := hn
  fresh := hf
  holds x hx := by
    rw [Heap.add, Heap.lookup_of_mem hn hx]
    rfl
  freed h hh := by
    rw [Heap.add, Heap.lookup_of_not_mem (hg h hh)]
    exact if_pos hh
  same h hm hh := by
    rw [Heap.add, Heap.lookup_of_not_mem hm]
    exact if_neg hh

end Change

/-- The caller has the objects `cells`, each once, and there are no others. -/
structure Owns (cells : List (H × V)) (s : Heap H V) : Prop where
  nodup : (cells.map Prod.fst).Nodup
  holds : ∀ h v, (h, v) ∈ cells ↔ s h = some v

namespace Owns
variable {cells cells' : List (H × V)} {s s' : Heap H V}

theorem nil : Owns [] (Heap.empty : Heap H V) :=
  ⟨List.nodup_nil, fun _ _ => iff_of_false List.not_mem_nil nofun⟩

theorem ofCells [DecidableEq H] {cells : List (H × V)} (hn : (cells.map Prod.fst).Nodup) :
    Owns cells (Heap.ofCells cells) := ⟨hn, Heap.mem_iff_lookup hn⟩

theorem eq_empty (ho : Owns [] s) : s = Heap.empty := by
  funext h
  cases hs : s h with
  | none => rfl
  | some v => exact absurd ((ho.holds h v).mpr hs) List.not_mem_nil

theorem perm (ho : Owns cells s) (hp : cells.Perm cells') : Owns cells' s :=
  ⟨(hp.map Prod.fst).nodup_iff.mp ho.nodup, fun h v => hp.mem_iff.symm.trans (ho.holds h v)⟩

theorem eq_some (ho : Owns cells s) {h : H} {v : V} (hx : (h, v) ∈ cells) : s h = some v :=
  (ho.holds h v).mp hx

theorem live (ho : Owns cells s) {h : H} {v : V} (hx : (h, v) ∈ cells) : s.Live h :=
  Heap.live_of_eq (ho.eq_some hx)

theorem unchanged (ho : Owns cells s) (hc : Change [] [] s s') : Owns cells s' :=
  hc.eq_of_nil ▸ ho

/-- The objects `old` give way to `made`; the others stay. -/
theorem change (old : List (H × V)) {made : List (H × V)} (ho : Owns (old ++ cells) s)
    (hc : Change made (old.map Prod.fst) s s') : Owns (made ++ cells) s' := by
  have hkeys := ho.nodup
  rw [List.map_append] at hkeys
  obtain ⟨_, hnodup, hapart⟩ := List.nodup_append'.mp hkeys
  have hlive : ∀ {x}, x ∈ cells → s.Live x.1 :=
    fun hx => ho.live (List.mem_append_right old hx)
  refine ⟨?_, ?_⟩
  · rw [List.map_append]
    refine List.nodup_append'.mpr ⟨hc.nodup, hnodup, ?_⟩
    intro h hm hh
    obtain ⟨x, hx, rfl⟩ := List.mem_map.mp hm
    obtain ⟨y, hy, heq⟩ := List.mem_map.mp hh
    exact hlive hy (heq ▸ hc.fresh x hx)
  · intro h v
    rw [List.mem_append]
    by_cases hm : h ∈ made.map Prod.fst
    · obtain ⟨x, hx, rfl⟩ := List.mem_map.mp hm
      have hold : (x.1, v) ∉ cells := fun hv => hlive hv (hc.fresh x hx)
      rw [or_iff_left hold, hc.holds x hx]
      constructor
      · intro hv
        rw [← hc.holds x hx, hc.holds _ hv]
      · intro hv
        cases hv
        exact hx
    · have hnew : (h, v) ∉ made := fun hv => hm (List.mem_map_of_mem (f := Prod.fst) hv)
      rw [or_iff_right hnew]
      by_cases hg : h ∈ old.map Prod.fst
      · rw [hc.freed h hg]
        exact iff_of_false (fun hv => hapart hg (List.mem_map_of_mem (f := Prod.fst) hv)) nofun
      · have hold : (h, v) ∉ old := fun hv => hg (List.mem_map_of_mem (f := Prod.fst) hv)
        rw [hc.same h hm hg, ← ho.holds, List.mem_append, or_iff_right hold]

theorem made {made : List (H × V)} (ho : Owns cells s) (hc : Change made [] s s') :
    Owns (made ++ cells) s' := change [] ho hc

theorem freed {x : H × V} (ho : Owns (x :: cells) s) (hc : Change [] [x.1] s s') :
    Owns cells s' := change [x] ho hc

theorem replaced {x : H × V} {made : List (H × V)} (ho : Owns (x :: cells) s)
    (hc : Change made [x.1] s s') : Owns (made ++ cells) s' := change [x] ho hc

end Owns

/-- The calls of a library: when each is allowed, and what it replies, makes and frees. -/
structure Api (C : Type) (R : C → Type) (H V : Type) where
  allowed : C → Heap H V → Prop
  effect : (c : C) → Heap H V → R c → List (H × V) → List H → Prop

namespace Api

def contract (A : Api C R H V) : Contract C R (Heap H V) where
  allowed := A.allowed
  effect c s r s' := ∃ made gone, A.effect c s r made gone ∧ Change made gone s s'

/-- No call depends on or frees what is not the caller's. -/
structure Local (A : Api C R H V) : Prop where
  allowed : ∀ {c s t}, s.Within t → A.allowed c s → A.allowed c t
  effect : ∀ {c s t r made gone}, s.Within t → A.allowed c s → A.effect c t r made gone →
    A.effect c s r made gone
  gone : ∀ {c s r made gone}, A.allowed c s → A.effect c s r made gone → ∀ h ∈ gone, s.Live h

/-- How a call by the owner of `s` looks in a larger heap `t`. -/
structure Framed (s t s' t' : Heap H V) : Prop where
  within : s'.Within t'
  others : ∀ h, t.Live h → ¬ s.Live h → t' h = t h
  own : ∀ h, s'.Live h → s.Live h ∨ ¬ t.Live h
  cover : ∀ h, t'.Live h → s'.Live h ∨ t.Live h ∧ ¬ s.Live h

theorem Local.frame {A : Api C R H V} (hA : A.Local) {c : C} {s t t' : Heap H V} {r : R c}
    (hw : s.Within t) (hc : A.allowed c s) (he : A.contract.effect c t r t') :
    ∃ s', A.contract.effect c s r s' ∧ Framed s t s' t' := by
  obtain ⟨made, gone, he, hch⟩ := he
  have hes := hA.effect hw hc he
  have hgone := hA.gone hc hes
  have hdead : ∀ {h}, t h = none → ¬ s.Live h := fun ht hs => hw.live hs ht
  let mine : H → Prop := fun h => s.Live h ∨ h ∈ made.map Prod.fst
  have hmine : ∀ {h}, s.Live h ∨ h ∈ made.map Prod.fst → t'.part mine h = t' h :=
    fun hp => Heap.part_pos (p := mine) hp
  refine ⟨t'.part mine, ⟨made, gone, hes, ?_⟩, ?_⟩
  · refine ⟨hch.nodup, ?_, ?_, ?_, ?_⟩
    · intro x hx
      exact Classical.not_not.mp (hdead (hch.fresh x hx))
    · intro x hx
      rw [hmine (.inr (List.mem_map_of_mem hx))]
      exact hch.holds x hx
    · intro h hh
      rw [hmine (.inl (hgone h hh))]
      exact hch.freed h hh
    · intro h hm hg
      by_cases hs : s.Live h
      · rw [hmine (.inl hs), hch.same h hm hg, hw.eq hs]
      · rw [Heap.part_neg (p := mine) (not_or.mpr ⟨hs, hm⟩), Classical.not_not.mp hs]
  · refine ⟨?_, ?_, ?_, ?_⟩
    · intro h v hv
      by_cases hm : mine h
      · rw [← hv, hmine hm]
      · rw [Heap.part_neg hm] at hv
        cases hv
    · intro h ht hs
      exact hch.keeps ht fun hg => hs (hgone h hg)
    · intro h hs'
      by_cases hm : mine h
      · rcases hm with hs | hm
        · exact .inl hs
        · obtain ⟨x, hx, rfl⟩ := List.mem_map.mp hm
          exact .inr fun ht => ht (hch.fresh x hx)
      · exact absurd (Heap.part_neg hm) hs'
    · intro h ht'
      by_cases hm : mine h
      · left
        rw [Heap.Live, hmine hm]
        exact ht'
      · rcases not_or.mp hm with ⟨hs, hnew⟩
        have hg : h ∉ gone := fun hg => hs (hgone h hg)
        rw [Heap.Live, hch.same h hnew hg] at ht'
        exact .inr ⟨ht', hs⟩

end Api

end Foreign
