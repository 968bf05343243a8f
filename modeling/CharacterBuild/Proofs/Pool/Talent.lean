import Mathlib
import CharacterBuild.Proofs.Build.Reload
import CharacterBuild.Proofs.Pool.Passive
import CharacterBuild.Proofs.Talent.Canonical
import CharacterBuild.Proofs.Talent.Layout

/-! Talent points on their way from a saved list to the modifiers of a build: the last entry of a position counts, as far
as its node has room, and the node grants its affix once for each point. -/

namespace CharacterBuild

variable {α : Type} [Number α]

def TalentNode.Grants (n : TalentNode) (points : UInt32) (ms : List (Modifier α)) : Prop :=
  List.Forall₂ (Modifier.IsMultiple (points.toNat : α)) ((Text.lines n.rawAffix).filterMap Affix.parse) ms

lemma TalentNode.grants_scaled (n : TalentNode) (points : UInt32) :
    n.Grants points ((Affix.modifiers n.rawAffix).map (·.scaled (points.toNat : α))) := by
  apply List.forall₂_map_right_iff.mpr
  apply List.forall₂_same.mpr
  exact fun m _ => m.isMultiple_scaled _

lemma min_ne_zero_iff {x y : UInt32} : min x y ≠ 0 ↔ x ≠ 0 ∧ y ≠ 0 := by
  rw [UInt32.min_def]
  split
  · next hle => exact ⟨fun hx => ⟨hx, fun hy => hx (UInt32.le_zero_iff.mp (hy ▸ hle))⟩, And.left⟩
  · next hle => exact ⟨fun hy => ⟨fun hx => hle (hx ▸ UInt32.zero_le), hy⟩, And.right⟩

lemma flatMap_filterMap {β γ δ : Type} (f : β → Option γ) (g : γ → List δ) (xs : List β) :
    (xs.filterMap f).flatMap g = xs.flatMap fun x => ((f x).map g).getD [] := by
  rw [flatMap_getD, List.flatMap_def, List.map_filterMap]

namespace TalentPage

variable {es : Entries} {p : TalentPage} {n : TalentNode}

def holders (p : TalentPage) : List TalentNode :=
  p.allocation.entries.filterMap (p.tree.nodeAt? ·.1)

structure Yields (α : Type) [Number α] (es : Entries) (p : TalentPage) : Prop where
  points : ∀ n ∈ p.tree.nodes, p.allocation.pointsAt n.position = min (es.lastPoints n.position) n.maxPoints
  nothing : ∀ pos, (∀ n ∈ p.tree.nodes, n.position ≠ pos) → p.allocation.pointsAt pos = 0
  granted : ∃ (ns : List TalentNode) (blocks : List (List (Modifier α))),
    ns.Pairwise (·.position < ·.position) ∧ (∀ n, n ∈ ns ↔ n ∈ p.tree.nodes ∧ es.lastPoints n.position ≠ 0) ∧
      p.modifiers = blocks.flatten ∧
      List.Forall₂ (fun n ms => n.Grants (min (es.lastPoints n.position) n.maxPoints) ms) ns blocks
  untold : p.notices = []

section Holders

variable (h : p.allocation.FitsIn p.tree)
include h

lemma notices_eq_nil : p.notices = [] := by
  have hnone : p.allocation.entries.filter (fun e => (p.tree.nodeAt? e.1).isNone) = [] := by
    apply List.filter_eq_nil_iff.mpr
    intro e he
    obtain ⟨n, hn, _⟩ := h.exists_node he
    simp [hn]
  rw [notices, hnone]
  rfl

lemma position_holders : p.holders.map (·.position) = p.allocation.entries.map (·.1) := by
  rw [holders, List.map_filterMap, ← List.filterMap_eq_map]
  apply List.filterMap_congr
  intro e he
  obtain ⟨n, hn, _⟩ := h.exists_node he
  simp [hn, Tree.nodeAt?_position hn]

lemma pairwise_holders : p.holders.Pairwise (·.position < ·.position) := by
  apply List.pairwise_map.mp
  rw [position_holders h]
  exact List.pairwise_map.mpr p.allocation.sorted

lemma modifiers_eq : p.modifiers = p.holders.flatMap fun n =>
    (Affix.modifiers n.rawAffix).map (·.scaled ((p.allocation.pointsAt n.position).toNat : α)) := by
  rw [holders, flatMap_filterMap, modifiers]
  apply List.flatMap_congr
  intro e he
  obtain ⟨n, hn, _⟩ := h.exists_node he
  simp [modifiersAt, hn, Tree.nodeAt?_position hn, Allocation.pointsAt_of_mem he]

end Holders

lemma mem_holders (hv : p.tree.Valid) : n ∈ p.holders ↔ n ∈ p.tree.nodes ∧ p.allocation.pointsAt n.position ≠ 0 := by
  rw [holders, List.mem_filterMap]
  constructor
  · rintro ⟨e, he, hn⟩
    refine ⟨Tree.nodeAt?_mem hn, ?_⟩
    rw [Tree.nodeAt?_position hn, Allocation.pointsAt_of_mem he]
    exact p.allocation.positive e he
  · rintro ⟨hn, hpoints⟩
    exact ⟨_, Allocation.mem_entries hpoints, hv.nodeAt?_of_mem hn⟩

lemma yields_of_cleaned (hv : p.tree.Valid) (hp : p.allocation = CleanUp.allocation p.tree (.ofEntries es)) :
    p.Yields α es := by
  have hfits : p.allocation.FitsIn p.tree := hp ▸ CleanUp.fitsIn_allocation _ _
  have hpoints : ∀ n ∈ p.tree.nodes, p.allocation.pointsAt n.position = min (es.lastPoints n.position) n.maxPoints := by
    intro n hn
    rw [hp, CleanUp.pointsAt_allocation, Allocation.pointsAt_ofEntries, Tree.room, hv.nodeAt?_of_mem hn]
  refine ⟨hpoints, fun pos hnone => ?_, ⟨p.holders, _, pairwise_holders hfits, fun n => ?_, modifiers_eq hfits, ?_⟩,
    notices_eq_nil hfits⟩
  · have hroom := hfits pos
    have hmissing : p.tree.nodeAt? pos = none := by simpa [Tree.nodeAt?] using hnone
    rw [Tree.room, hmissing] at hroom
    exact UInt32.le_zero_iff.mp hroom
  · rw [mem_holders hv]
    apply and_congr_right
    intro hn
    rw [hpoints n hn, min_ne_zero_iff]
    exact and_iff_left (hv.cap n hn)
  · apply List.forall₂_map_right_iff.mpr
    apply List.forall₂_same.mpr
    intro n hn
    rw [← hpoints n ((mem_holders hv).mp hn).1]
    exact n.grants_scaled _

lemma cleaned_of_load {ε : Type} {fetch : Fetcher ε} {c : TreeCache} {ps : List SavedPage} {pages : List TalentPage}
    (h : (load fetch c ps).result = .ok pages) : List.Forall₂ (fun saved page =>
      page.name = saved.tree ∧ page.allocation = CleanUp.allocation page.tree saved.allocated) ps pages := by
  induction ps generalizing c pages with
  | nil =>
    obtain rfl := Except.ok.inj h
    exact .nil
  | cons saved ps ih =>
    obtain ⟨tree, rest, _, hrest, rfl, _⟩ := exists_of_load_cons h
    exact .cons ⟨rfl, rfl⟩ (ih hrest)

end TalentPage

namespace Loadout

variable {ε : Type} {fetch : Fetcher ε} {cache : TreeCache} {save : Save α} {l : Loadout α}

lemma talents_infix_pool (l : Loadout α) (c : Configuration) (ts : Templates α) :
    l.talents.flatMap TalentPage.modifiers <:+: l.pool c ts := by
  rw [pool, baseModifiers_eq]
  simp only [List.append_assoc]
  apply List.infix_append'

theorem talent_points_reach_pool (h : (ofSave fetch cache save).result = .ok l) :
    List.Forall₂ (fun saved page => page.name = saved.tree ∧
        ∀ es : Entries, Allocation.ofValue? es.toValue = some saved.allocated → page.tree.fault? = none →
          page.Yields α es) save.talents l.talents ∧
      ∀ c ts, l.talents.flatMap TalentPage.modifiers <:+: l.pool c ts := by
  refine ⟨(TalentPage.cleaned_of_load (pages_of_ofSave h).1).imp ?_, l.talents_infix_pool⟩
  rintro saved page ⟨hname, hcleaned⟩
  refine ⟨hname, fun es hread ht => ?_⟩
  have hsaved : Allocation.ofEntries es = saved.allocated :=
    Option.some.inj ((Allocation.ofValue?_toValue es).symm.trans hread)
  exact TalentPage.yields_of_cleaned (Tree.fault?_eq_none_iff.mp ht) (hsaved ▸ hcleaned)

def forge : Tree where
  name := "Forge"
  nodes :=
    [⟨.medium, "+4% damage\nGlows in the dark\n+10% cold resistance", ⟨1, 0⟩, 2, "", none⟩,
      ⟨.micro, "Adds 2 - 4 fire damage to attacks", ⟨0, 0⟩, 3, "", none⟩, ⟨.micro, "+1 strength", ⟨0, 1⟩, 1, "", none⟩]

def forgePoints : Entries :=
  [(⟨1, 0⟩, 1), (⟨0, 1⟩, 1), (⟨0, 0⟩, 3), (⟨1, 0⟩, 9), (⟨0, 1⟩, 0), (⟨7, 7⟩, 2)]

def smith : Save ℚ where
  gear := []
  talents := [⟨.godOfMachines, .ofEntries forgePoints⟩]
  active := []
  passive := []
  prisms := []
  rings := []
  configuration := .empty

theorem smith_talent_points_reach_pool : ∃ l : Loadout ℚ,
    (ofSave (fun _ => .ok forge : Fetcher LoadError) .empty smith).result = .ok l ∧
    forge.fault? = none ∧ l.talents.map (·.allocation.entries) = [[(⟨0, 0⟩, 3), (⟨1, 0⟩, 2)]] ∧
    (l.talents.flatMap TalentPage.modifiers : List (Modifier ℚ)) =
      [.flatDamage .fire (2 * 3) (4 * 3) .attack, { effect := .damage, value := 4 / 100 * 2 },
        { effect := .resistance, value := 10 / 100 * 2, scope := .cold, additional := true }] ∧
    ∃ page, l.talents = [page] ∧ page.Yields ℚ forgePoints := by
  obtain ⟨l, hl⟩ : ∃ l, (ofSave (fun _ => .ok forge : Fetcher LoadError) .empty smith).result = .ok l := ⟨_, rfl⟩
  have hflow := (talent_points_reach_pool hl).1
  obtain rfl := Except.ok.inj hl
  have hforge : forge.fault? = none := by decide
  obtain ⟨⟨_, hyields⟩, _⟩ := List.forall₂_cons.mp hflow
  exact ⟨_, rfl, hforge, by decide +kernel, by decide +kernel, _, rfl,
    hyields forgePoints (Allocation.ofValue?_toValue _) hforge⟩

end Loadout
end CharacterBuild
