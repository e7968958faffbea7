import AnsibleStaging.Proofs.HostWays

/-! What it does to a host's tree to make directories, also where this breaks off. A directory is made only where nothing
    is, and a path on the way leads to it afterwards; everything else stays. This holds of one directory, so it holds of
    a row of them, whatever part of the row is made. -/

namespace AnsibleStaging
namespace HostTree
open AnsibleStaging.Path

variable {t u v : HostTree} {p a : Path} {place : List String} {way : List Path} {mode : FileMode}

/-- A place has what it had, or it had nothing and is now a directory that one of the paths leads to. --/
def KeptAt (way : List Path) (t u : HostTree) (place : List String) : Prop :=
  u.get? place = t.get? place ∨
    (t.get? place = none ∧ (∃ m, u.get? place = some (.dir m)) ∧ ∃ a ∈ way, u.resolve a = .ok place)

theorem KeptAt.trans (h : KeptAt way t u place) (h' : KeptAt way u v place) (hleads : Leads u v) :
    KeptAt way t v place := by
  rcases h with h | ⟨hnone, ⟨m, hm⟩, a, ha, hplace⟩
  · rcases h' with h' | ⟨hnone, hmade⟩
    · exact Or.inl (h'.trans h)
    · exact Or.inr ⟨h ▸ hnone, hmade⟩
  · exact Or.inr ⟨hnone, hleads.dirs place m hm, a, ha, hleads.resolve hplace⟩

/-- A tree with more directories, all of them on the way. --/
structure Wider (way : List Path) (t u : HostTree) : Prop where
  limits : u.limits = t.limits
  current : u.current = t.current
  kept : ∀ place, KeptAt way t u place

namespace Wider

theorem leads (h : Wider way t u) : Leads t u where
  limits := h.limits
  current := h.current
  dirs place m hm := by
    rcases h.kept place with hkept | ⟨-, hmade, -⟩
    · exact ⟨m, hkept.trans hm⟩
    · exact hmade

theorem trans (h : Wider way t u) (h' : Wider way u v) : Wider way t v where
  limits := h'.limits.trans h.limits
  current := h'.current.trans h.current
  kept place := (h.kept place).trans (h'.kept place) h'.leads

end Wider

/-- Nothing but directories on the way has been made, and no name has been made up. --/
structure Grown (way : List Path) (t u : HostTree) : Prop extends Wider way t u where
  named : u.named = t.named

theorem Grown.refl (way : List Path) (t : HostTree) : Grown way t t := ⟨⟨rfl, rfl, fun _ => Or.inl rfl⟩, rfl⟩

theorem Grown.trans (h : Grown way t u) (h' : Grown way u v) : Grown way t v :=
  ⟨h.toWider.trans h'.toWider, h'.named.trans h.named⟩

/-! ### Making directories -/

/-- A directory is made where the last piece of the path is looked up, and nothing was there. --/
theorem makeDir_ok (h : makeDir a mode t = .ok u) : ∃ w m, t.target? a = .ok (some w) ∧ isDot w.name = false ∧
    t.get? (w.parent ++ [w.name]) = none ∧ u = t.put (w.parent ++ [w.name]) (.dir m) := by
  obtain ⟨w, htarget, hdot, h⟩ := ok_of_target? h
  split at h
  · cases h
  · next hnone =>
    cases h
    exact ⟨w, _, htarget, hdot, hnone, rfl⟩

theorem leads_put_dir (hplace : place ≠ []) (m : FileMode) : Leads t (t.put place (.dir m)) := by
  refine ⟨rfl, rfl, fun d m' hd => ?_⟩
  rw [get?_put hplace]
  split
  · exact ⟨m, rfl⟩
  · exact ⟨m', hd⟩

theorem grown_makeDir (ha : a ∈ way) (h : makeDir a mode t = .ok u) : Grown way t u := by
  obtain ⟨w, m, htarget, hdot, hnone, rfl⟩ := makeDir_ok h
  have hbelow : w.parent ++ [w.name] ≠ [] := by simp
  refine ⟨⟨rfl, rfl, fun place => ?_⟩, rfl⟩
  by_cases hplace : place = w.parent ++ [w.name]
  · -- The path is looked up again in the tree with the directory.
    subst hplace
    have hmade : (t.put (w.parent ++ [w.name]) (.dir m)).get? (w.parent ++ [w.name]) = some (.dir m) := by
      rw [get?_put hbelow, if_pos rfl]
    have htarget := (leads_put_dir hbelow m).target? htarget
    exact Or.inr ⟨hnone, ⟨m, hmade⟩, a, ha, resolve_of_target? htarget hdot fun _ => requireDir_eq_ok.mpr ⟨m, hmade⟩⟩
  · exact Or.inl ((get?_put hbelow (.dir m) place).trans (if_neg hplace))

theorem grown_climb {l missing missing' : List Path} (hl : ∀ a ∈ l, a ∈ way) (hmissing : ∀ a ∈ missing, a ∈ way)
    (h : climb mode l missing t = .ok (missing', u)) : Grown way t u ∧ ∀ a ∈ missing', a ∈ way := by
  induction l generalizing missing with
  | nil =>
    cases h
    exact ⟨Grown.refl way t, hmissing⟩
  | cons a rest ih =>
    obtain ⟨ha, hrest⟩ := List.forall_mem_cons.mp hl
    rw [climb] at h
    split at h
    · cases h
      exact ⟨Grown.refl way t, hmissing⟩
    · split at h
      · next hmade =>
        cases h
        exact ⟨grown_makeDir ha hmade, hmissing⟩
      · split at h
        · exact ih hrest (List.forall_mem_cons.mpr ⟨ha, hmissing⟩) h
        · split at h
          · cases h
            exact ⟨Grown.refl way t, hmissing⟩
          · cases h

theorem grown_descend {l : List Path} (hl : ∀ a ∈ l, a ∈ way) (t : HostTree) : Grown way t (descend mode l t).2 := by
  induction l generalizing t with
  | nil => exact Grown.refl way t
  | cons a rest ih =>
    obtain ⟨ha, hrest⟩ := List.forall_mem_cons.mp hl
    rw [descend]
    split
    · next hmade => exact (grown_makeDir ha hmade).trans (ih hrest _)
    · split
      · exact ih hrest t
      · exact Grown.refl way t

theorem grown_makeDirs (p : Path) (mode : FileMode) (t : HostTree) : Grown p.ancestors t (makeDirs p mode t).2 := by
  rw [makeDirs]
  split
  · exact Grown.refl _ t
  · split
    · exact Grown.refl _ t
    · next hclimb =>
      obtain ⟨hgrown, hmissing⟩ := grown_climb (fun _ ha => ha) (List.forall_mem_nil _) hclimb
      exact hgrown.trans (grown_descend hmissing _)

/-! ### Making some of the directories -/

/-- Makes at most `n` of the missing directories, the outermost first, and fails then. --/
def makeDirsUntil (n : Nat) (e : IoError) (p : Path) (mode : FileMode) : FileAction HostTree Unit := fun t =>
  match n with
  | 0 => (.error e, t)
  | n + 1 =>
    match climb mode p.ancestors [] t with
    | .error e => (.error e, t)
    | .ok (missing, t) => (descend mode (missing.take n)).andThen (fun t => (.error e, t)) t

theorem snd_andThen_error {σ : Type} (act : FileAction σ Unit) (e : IoError) (s : σ) :
    (act.andThen (fun s => ((.error e : Except IoError Unit), s)) s).2 = (act s).2 := by
  unfold FileAction.andThen
  split <;> simp [*]

theorem grown_makeDirsUntil (n : Nat) (e : IoError) (p : Path) (mode : FileMode) (t : HostTree) :
    Grown p.ancestors t (makeDirsUntil n e p mode t).2 := by
  cases n with
  | zero => exact Grown.refl _ t
  | succ n =>
    rw [makeDirsUntil]
    split
    · exact Grown.refl _ t
    · next missing _ hclimb =>
      obtain ⟨hgrown, hmissing⟩ := grown_climb (fun _ ha => ha) (List.forall_mem_nil _) hclimb
      rw [snd_andThen_error]
      exact hgrown.trans (grown_descend (fun a ha => hmissing a (List.mem_of_mem_take ha)) _)

/-! ### The way to a file -/

/-- The paths on the way to the parent of a file. --/
def wayTo (p : Path) : List Path := (p.parent.map ancestors).getD []

theorem prefix_of_mem_ancestors {q : Path} (ha : a ∈ q.ancestors) (hne : a.isEmpty = false) :
    a.components <+: q.components := by
  have hmem : a.components ∈ ((q.ancestors.filter fun a => !a.isEmpty).reverse).map components :=
    List.mem_map_of_mem (List.mem_reverse.mpr (List.mem_filter.mpr ⟨ha, by simpa using hne⟩))
  rw [components_ancestors] at hmem
  exact (List.mem_inits _ _).mp (List.mem_of_mem_tail hmem)

/-- A path and one that goes on from it start at the same place. --/
theorem start_eq_of_above (t : HostTree) (hsome : a.components ≠ []) (h : a.components <+: p.components) :
    t.start a = t.start p := by
  have habsolute : a.isAbsolute = p.isAbsolute := by
    obtain ⟨c, cs, hc⟩ := List.exists_cons_of_ne_nil hsome
    obtain ⟨rest, hrest⟩ := h
    rw [Bool.eq_iff_iff, isAbsolute_iff, isAbsolute_iff, ← hrest, hc]
    simp
  rw [start, habsolute, start]

/-- Without steps upwards, no path on the way to a file leads to the place of the file. --/
theorem ne_of_mem_wayTo (hdots : Component.parent ∉ p.components) (ha : a ∈ wayTo p) (hplace : t.resolve p = .ok place) :
    t.resolve a ≠ .ok place := by
  intro hway
  rw [wayTo] at ha
  cases hq : p.parent with
  | none => simp [hq] at ha
  | some q =>
    rw [hq] at ha
    have hsome : a.components ≠ [] := fun hnil => by
      rw [components_eq_nil] at hnil
      have hinspect := (resolve_eq_ok.mp hway).1
      rw [inspect, hnil] at hinspect
      split at hinspect <;> cases hinspect
    have hupTo := prefix_of_mem_ancestors ha (Bool.eq_false_iff.mpr (mt components_eq_nil.mpr hsome))
    obtain ⟨c, hc⟩ := components_of_parent hq
    have habove : a.components <+: p.components := hupTo.trans (hc ▸ List.prefix_append _ _)
    have hnames := (resolve_eq hway fun hmem => hdots (habove.subset hmem)).symm.trans (resolve_eq hplace hdots)
    rw [start_eq_of_above t hsome habove] at hnames
    -- The path has one more name than any on the way.
    rcases components_concat hc with ⟨name, rfl⟩ | rfl | hnil
    · have hlength := congrArg List.length hnames
      have hle := (hupTo.filterMap nameOf?).length_le
      rw [hc, List.filterMap_append] at hlength
      simp [nameOf?] at hlength
      omega
    · exact hdots (hc ▸ List.mem_append_right _ List.mem_cons_self)
    · rw [hnil] at hupTo
      exact hsome (List.prefix_nil.mp hupTo)

end HostTree
end AnsibleStaging
