import Mathlib.Data.Int.CardIntervalMod
import Transports.Proofs.LoopGroup.Operations
/-!
# Turns

The loops of a group take turns by a counter of 64 bits: call `k` of `next` hands out the loop at
place `k % 2 ^ 64 % n`, whatever else is done with the group (`Plan.Stands.turns_run`). As long as
the counter does not wrap, these are the remainders of numbers in a row, which come round evenly. A
window of `n` calls across a wrap joins the last numbers of one round of the counter to the first
ones of the next, and then the loops come round evenly only if `n` divides `2 ^ 64`. `turns_fair`
has it all.
-/

namespace Transports

/-! ## Remainders of numbers in a row -/

section
variable {b i m n w : Nat}

/-- Numbers in a row stay in a row if each is moved as far as the first. -/
theorem map_range'_eq {f : Nat → Nat} {start first : Nat}
    (h : ∀ j < n, f (start + j) = first + j) :
    (List.range' start n).map f = List.range' first n := by
  rw [List.range'_eq_map_range, List.range'_eq_map_range, List.map_map]
  exact List.map_congr_left fun j hj => h j (List.mem_range.1 hj)

/-- Of `n` numbers in a row, each remainder is left once. -/
theorem perm_map_mod_range' (start n : Nat) :
    ((List.range' start n).map (· % n)).Perm (List.range n) := by
  have h : (Finset.Ico start (start + n)).val.map (· % n) = Multiset.range n :=
    Nat.multiset_Ico_map_mod start n
  rw [Nat.Ico_eq_range', Nat.add_sub_cancel_left] at h
  exact Multiset.coe_eq_coe.1 h

/-- Of the first numbers, a remainder is left as often as any other, or once more. -/
theorem count_map_mod_range (hi : i < n) :
    ((List.range m).map (· % n)).count i = m / n + if i < m % n then 1 else 0 := by
  have hcount : ((List.range m).map (· % n)).count i = m.count (· ≡ i [MOD n]) := by
    rw [List.count_eq_countP, List.countP_map]
    refine List.countP_congr fun k _ => ?_
    simp [Nat.ModEq, Nat.mod_eq_of_lt hi]
  rw [hcount, Nat.count_modEq_card m (Nat.zero_lt_of_lt hi), Nat.mod_eq_of_lt hi]

/-- Fewer than `n` numbers in a row leave the same remainders as the first ones only if they start
at a multiple of `n`. -/
theorem perm_map_mod_range'_iff (hb : 0 < b) (hbn : b < n) :
    ((List.range' w b).map (· % n)).Perm (List.range b) ↔ n ∣ w := by
  constructor
  · intro hperm
    by_contra hnot
    -- the remainder 0 is left by one of them, which is not the first
    obtain ⟨k, hk, hmod⟩ := List.mem_map.1 (hperm.mem_iff.2 (List.mem_range.2 hb))
    obtain ⟨q, rfl⟩ := Nat.dvd_of_mod_eq_zero hmod
    rw [List.mem_range'_1] at hk
    have hlt : w < n * q := Nat.lt_of_le_of_ne hk.1 fun h => hnot ⟨q, h⟩
    -- so the one before leaves the remainder `n - 1`, which is too large
    have hbefore : (n * q - 1) % n = n - 1 := by
      rw [Nat.mul_sub_mod (Nat.zero_lt_of_lt hlt), Nat.zero_mod]
    have hmem : (n * q - 1) % n ∈ List.range b :=
      hperm.mem_iff.1 (List.mem_map.2 ⟨n * q - 1, List.mem_range'_1.2 (by omega), rfl⟩)
    rw [hbefore, List.mem_range] at hmem
    omega
  · rintro ⟨q, rfl⟩
    have hsame : (List.range' (n * q) b).map (· % n) = List.range' 0 b := by
      refine map_range'_eq fun j hj => ?_
      rw [Nat.mul_add_mod, Nat.zero_add]
      exact Nat.mod_eq_of_lt (hj.trans hbn)
    rw [hsame, List.range_eq_range']

end

/-! ## A counter of 64 bits -/

/-- A counter of 64 bits wraps within `n` calls from `start` on, with calls on both sides. -/
def WrapsWithin (start n : Nat) : Prop :=
  ∃ k, start < k ∧ k < start + n ∧ 2 ^ 64 ∣ k

/-- The place of the loop that call `k` of `next` hands out in a group of `n`. -/
def turnOf (n k : Nat) : Nat :=
  k % 2 ^ 64 % n

section
variable {start n : Nat}

/-- Unless it wraps, the counter runs through numbers in a row. -/
theorem map_mod_of_not_wrapsWithin (h : ¬WrapsWithin start n) :
    (List.range' start n).map (· % 2 ^ 64) = List.range' (start % 2 ^ 64) n := by
  refine map_range'_eq fun j hj => ?_
  have hstart := Nat.mod_add_div start (2 ^ 64)
  have hlt : start % 2 ^ 64 < 2 ^ 64 := Nat.mod_lt _ (by decide)
  have hfits : start % 2 ^ 64 + j < 2 ^ 64 := by
    by_contra hle
    -- the next multiple is one of the calls behind the first
    refine h ⟨2 ^ 64 * (start / 2 ^ 64 + 1), ?_, ?_, Nat.dvd_mul_right _ _⟩
    · omega
    · omega
  omega

/-- Across a wrap, the counter runs through the last numbers of its range and then the first. -/
theorem map_mod_of_wrapsWithin (hn : n < 2 ^ 64) (h : WrapsWithin start n) :
    ∃ a b, 0 < b ∧ b < n ∧ a + b = n ∧ a ≤ 2 ^ 64 ∧
      (List.range' start n).map (· % 2 ^ 64) = List.range' (2 ^ 64 - a) a ++ List.range b := by
  obtain ⟨k, hstart, hend, q, rfl⟩ := h
  obtain ⟨a, ha⟩ := Nat.exists_eq_add_of_le hstart.le
  obtain ⟨b, hb⟩ := Nat.exists_eq_add_of_le (show a ≤ n by omega)
  refine ⟨a, b, by omega, by omega, hb.symm, by omega, ?_⟩
  rw [hb, ← List.range'_append_1, ← ha, List.map_append, List.range_eq_range']
  congr 1
  · refine map_range'_eq fun j hj => ?_
    omega
  · refine map_range'_eq fun j hj => ?_
    omega

theorem map_turnOf (start n k : Nat) :
    (List.range' start k).map (turnOf n) =
      ((List.range' start k).map (· % 2 ^ 64)).map (· % n) := by
  rw [List.map_map]
  rfl

/-- **A window that no wrap crosses** has the turn of every loop once. -/
theorem perm_turnOf_of_not_wrapsWithin (h : ¬WrapsWithin start n) :
    ((List.range' start n).map (turnOf n)).Perm (List.range n) := by
  rw [map_turnOf, map_mod_of_not_wrapsWithin h]
  exact perm_map_mod_range' _ _

/-- **A window that a wrap crosses** has the turn of every loop once only if their number divides
the range of the counter. -/
theorem perm_turnOf_iff_of_wrapsWithin (hn : n < 2 ^ 64) (h : WrapsWithin start n) :
    ((List.range' start n).map (turnOf n)).Perm (List.range n) ↔ n ∣ 2 ^ 64 := by
  obtain ⟨a, b, hb, hbn, hab, ha, hmap⟩ := map_mod_of_wrapsWithin hn h
  -- had the counter not wrapped, numbers in a row would have followed the first ones
  have hrow := perm_map_mod_range' (2 ^ 64 - a) n
  rw [← hab, ← List.range'_append_1, Nat.sub_add_cancel ha, List.map_append, hab] at hrow
  have hfirst : (List.range b).map (· % n) = List.range b := by
    rw [List.range_eq_range']
    refine map_range'_eq fun j hj => ?_
    rw [Nat.zero_add]
    exact Nat.mod_eq_of_lt (hj.trans hbn)
  rw [map_turnOf, hmap, List.map_append, hfirst, ← perm_map_mod_range'_iff hb hbn]
  constructor
  · intro hperm
    exact ((List.perm_append_left_iff _).1 (hrow.trans hperm.symm))
  · intro hperm
    exact (((List.perm_append_left_iff _).2 hperm).symm.trans hrow)

/-- **The first calls** go to a loop as often as to any other, or once more. -/
theorem count_turnOf_le {m i j : Nat} (hm : m ≤ 2 ^ 64) (hi : i < n) (hj : j < n) :
    ((List.range m).map (turnOf n)).count i ≤ ((List.range m).map (turnOf n)).count j + 1 := by
  have hmap : (List.range m).map (turnOf n) = (List.range m).map (· % n) :=
    List.map_congr_left fun k hk => by
      rw [turnOf, Nat.mod_eq_of_lt ((List.mem_range.1 hk).trans_le hm)]
  rw [hmap, count_map_mod_range hi, count_map_mod_range hj]
  split <;> omega

end

/-! ## The turns of a group -/

namespace LoopGroup

variable {η α : Type}

def Reply.loop? : Reply η α → Option (EventLoop η)
  | loop l => some l
  | _ => none

/-- The places of the loops handed out, in order. -/
def turns (responses : List (Response η α)) : List Nat :=
  responses.filterMap fun r => r.reply.loop?.map (·.index)

theorem turns_cons (r : Response η α) (responses : List (Response η α)) :
    turns (r :: responses) = (r.reply.loop?.map (·.index)).toList ++ turns responses := by
  rw [turns, List.filterMap_cons]
  cases r.reply.loop?.map (·.index) <;> rfl

end LoopGroup

open LoopGroup

namespace Plan

variable {η α : Type} {p : Plan η} {before : List (Operation η α)} {g : LoopGroup η}

/-- The loop whose turn it is stands at the place that the number of turns so far tells. -/
theorem Stands.loop?_turnOf (h : p.Stands before g) :
    g.loop? (turnOf p.count (before.countP (·.isNext))) = some g.next.1 ∧
      g.next.1.index = turnOf p.count (before.countP (·.isNext)) := by
  have hturn : g.turn = turnOf p.count (before.countP (·.isNext)) := h.turn_eq
  have hnext : g.next.1.index = turnOf p.count (before.countP (·.isNext)) := by
    rw [h.fst_next]
    rfl
  exact ⟨hturn ▸ LoopGroup.fst_next g, hnext⟩

/-- **The turns of a group** are told by their number, whatever else is done with it. -/
theorem Stands.turns_run (h : p.Stands before g) (ops : List (Operation η α)) :
    turns (g.run ops).1 =
      (List.range' (before.countP (·.isNext)) (ops.countP (·.isNext))).map (turnOf p.count) := by
  induction ops generalizing g before with
  | nil => rfl
  | cons op ops ih =>
    obtain ⟨-, hstands⟩ := h.act op
    rw [LoopGroup.run, turns_cons, ih hstands, List.countP_append, List.countP_singleton,
      List.countP_cons]
    cases op with
    | next =>
      show g.next.1.index :: _ = _
      rw [h.loop?_turnOf.2]
      exact (congrArg (List.map _) (List.range'_succ ..)).symm
    | close | withHandle | shutdown | isShutdown | isOpen | threadCount => rfl

/-- The turns of a group from its opening on. -/
theorem turns_run_of_group? (hg : p.group? = some g) (ops : List (Operation η α)) :
    turns (g.run ops).1 = (List.range (ops.countP (·.isNext))).map (turnOf p.count) := by
  have hopened : p.Stands ([] : List (Operation η α)) g := (opened_of_group? hg).stands
  rw [hopened.turns_run ops, List.range_eq_range']
  rfl

/-- A window of the turns of a group. -/
theorem window_turns (hg : p.group? = some g) {ops : List (Operation η α)} {start n : Nat}
    (hend : start + n ≤ (turns (g.run ops).1).length) :
    ((turns (g.run ops).1).drop start).take n = (List.range' start n).map (turnOf p.count) := by
  rw [turns_run_of_group? hg, List.length_map, List.length_range] at hend
  obtain ⟨rest, hrest⟩ := Nat.exists_eq_add_of_le hend
  rw [turns_run_of_group? hg, hrest, List.range_eq_range', ← List.map_drop, ← List.map_take,
    List.drop_range', Nat.zero_add, Nat.mul_one, Nat.add_assoc, Nat.add_sub_cancel_left,
    ← List.range'_append_1, List.take_left' List.length_range']

end Plan

/-- **Turns are fair**, up to the wrap of a counter of 64 bits. Call `k` of `next` on a group of `n`
loops hands out the loop at place `k % 2 ^ 64 % n`, whatever else is done with the group. So any `n`
calls in a row hand out every loop once if the counter does not wrap among them; of the first
`2 ^ 64` calls, a loop has had as many as any other, or one more; and `n` calls in a row with a wrap
among them hand out every loop once exactly if `n` divides `2 ^ 64`. -/
theorem turns_fair {η α : Type} {p : Plan η} {g : LoopGroup η} (hg : p.group? = some g)
    (hcount : p.count < 2 ^ 64) :
    (∀ before : List (Operation η α),
      (g.run before).2.loop? (before.countP (·.isNext) % 2 ^ 64 % p.count) =
        some (g.run before).2.next.1 ∧
      (g.run before).2.next.1.index = before.countP (·.isNext) % 2 ^ 64 % p.count) ∧
    ∀ ops : List (Operation η α),
      turns (g.run ops).1 =
        (List.range (ops.countP (·.isNext))).map (fun k => k % 2 ^ 64 % p.count) ∧
      (∀ start, start + p.count ≤ (turns (g.run ops).1).length → ¬WrapsWithin start p.count →
        (((turns (g.run ops).1).drop start).take p.count).Perm (List.range p.count)) ∧
      ((turns (g.run ops).1).length ≤ 2 ^ 64 → ∀ i < p.count, ∀ j < p.count,
        (turns (g.run ops).1).count i ≤ (turns (g.run ops).1).count j + 1) ∧
      ∀ start, start + p.count ≤ (turns (g.run ops).1).length → WrapsWithin start p.count →
        ((((turns (g.run ops).1).drop start).take p.count).Perm (List.range p.count) ↔
          p.count ∣ 2 ^ 64) := by
  have hopened : p.Stands ([] : List (Operation η α)) g := (Plan.opened_of_group? hg).stands
  refine ⟨fun before => (hopened.run before).2.loop?_turnOf, fun ops => ?_⟩
  have hturns := Plan.turns_run_of_group? hg ops
  refine ⟨hturns, fun start hend hwrap => ?_, fun hm i hi j hj => ?_, fun start hend hwrap => ?_⟩
  · rw [Plan.window_turns hg hend]
    exact perm_turnOf_of_not_wrapsWithin hwrap
  · rw [hturns, List.length_map, List.length_range] at hm
    rw [hturns]
    exact count_turnOf_le hm hi hj
  · rw [Plan.window_turns hg hend]
    exact perm_turnOf_iff_of_wrapsWithin hcount hwrap

/-- In a group of three loops the second call and the two after it go round once, although a loop
was closed. Around the wrap of the counter they do not. -/
theorem wrap_breaks_round_of_three :
    let p : Plan Nat :=
      { transport := "TEST", factory := { stem := "loop" }, openAt i := .ok (10 * i), count := 3 }
    let ops : List (Operation Nat Unit) := .close 1 :: List.replicate (2 ^ 64 + 2) .next
    ∃ g, p.group? = some g ∧ p.count < 2 ^ 64 ∧
      (((turns (g.run ops).1).drop 1).take 3).Perm (List.range 3) ∧
      ¬(((turns (g.run ops).1).drop (2 ^ 64 - 1)).take 3).Perm (List.range 3) := by
  intro p ops
  obtain ⟨g, hg⟩ := p.exists_group? (by decide) fun i _ => ⟨10 * i, rfl⟩
  have hcount : p.count < 2 ^ 64 := by decide
  obtain ⟨-, hfair⟩ := turns_fair hg hcount
  obtain ⟨hturns, heven, -, hwrapped⟩ := hfair ops
  have hcalls : ops.countP (·.isNext) = 2 ^ 64 + 2 := by
    rw [List.countP_cons_of_neg (by decide), List.countP_replicate]
    exact if_pos rfl
  have hlength : (turns (g.run ops).1).length = 2 ^ 64 + 2 := by
    rw [hturns, List.length_map, List.length_range, hcalls]
  refine ⟨g, hg, hcount, heven 1 (by rw [hlength]; decide) ?_, fun hperm => ?_⟩
  · rintro ⟨k, hlow, hhigh, hdvd⟩
    obtain ⟨q, rfl⟩ := hdvd
    have : p.count = 3 := rfl
    omega
  · have hcross : WrapsWithin (2 ^ 64 - 1) p.count := ⟨2 ^ 64, by decide, by decide, dvd_rfl⟩
    have hdvd := (hwrapped (2 ^ 64 - 1) (by rw [hlength]; decide) hcross).1 hperm
    exact absurd hdvd (by decide)

end Transports
