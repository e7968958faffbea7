import AnsibleStaging.Proofs.Containment
import AnsibleStaging.Proofs.Turns

/-! Connecting two runs at the same time, in one tree. Each has directories of its own, which the other neither makes nor
    writes into. On the way to them both make the same directories, and whoever comes second finds them made: a
    directory that stands is as good as one that is missing. So each connect goes as it goes alone, in whatever order
    the calls of the two are made. -/

namespace AnsibleStaging
open Script

namespace MemTree
variable {exact way : Path → Prop} {u t : MemTree} {p q d : Path} {mode : FileMode} {ds : List Path}
  {data : ByteArray} {n : Node}

/-! ### Agreement -/

/-- Two trees have the same at `exact` places, and files at the same places on the way. --/
structure Agree (exact way : Path → Prop) (u t : MemTree) : Prop where
  same : ∀ q, exact q → t.get? q = u.get? q
  files : ∀ q, way q → (t.kind q = some false ↔ u.kind q = some false)

theorem Agree.refl (t : MemTree) : Agree exact way t t := ⟨fun _ _ => rfl, fun _ _ => Iff.rfl⟩

theorem Agree.symm (h : Agree exact way u t) : Agree exact way t u :=
  ⟨fun q hq => (h.same q hq).symm, fun q hq => (h.files q hq).symm⟩

theorem Agree.insert (h : Agree exact way u t) (p : Path) (n : Node) : Agree exact way (u.insert p n) (t.insert p n) where
  same q hq := by rw [get?_insert, get?_insert, h.same q hq]
  files q hq := by
    rw [kind_insert, kind_insert]
    split
    · exact Iff.rfl
    · exact h.files q hq

/-- A directory that is made where the other tree has one already. --/
theorem Agree.insert_dir (h : Agree exact way u t) (free : u.get? d = none) (dir : t.kind d = some true) :
    Agree exact way (u.insert d (.dir mode)) t where
  same q hq := by
    by_cases hs : d.Same q
    · rw [kind_congr hs, kind, h.same q hq, ← get?_congr hs, free] at dir
      cases dir
    · rw [get?_insert_of_not_same hs]
      exact h.same q hq
  files q hq := by
    by_cases hs : d.Same q
    · rw [kind_insert, if_pos hs, ← kind_congr hs, dir]
      rfl
    · rw [kind_insert, if_neg hs]
      exact h.files q hq

/-- Directories are made alike in trees that agree, whichever of them are there already. --/
theorem Agree.makeMissing (h : Agree exact way u t) (mode : FileMode) (hds : ∀ d ∈ ds, way d) :
    (makeMissing mode ds t).1 = (makeMissing mode ds u).1 ∧
      Agree exact way (makeMissing mode ds u).2 (makeMissing mode ds t).2 := by
  induction ds generalizing u t with
  | nil => exact ⟨rfl, h⟩
  | cons d rest ih =>
    obtain ⟨hd, hrest⟩ := List.forall_mem_cons.mp hds
    have files := h.files d hd
    unfold MemTree.makeMissing
    rcases ht : t.get? d with _ | (m | ⟨data, m⟩) <;> rcases hu : u.get? d with _ | (m' | ⟨data', m'⟩) <;>
      simp only [kind, ht, hu, Option.map_some, Option.map_none, Node.isDir, reduceCtorEq, Option.some.injEq,
        Bool.true_eq_false, iff_true, iff_false, not_true_eq_false] at files
    · exact ih (h.insert d _) hrest
    · exact ih (h.symm.insert_dir ht (kind_eq_true.mpr ⟨_, hu⟩)).symm hrest
    · exact ih (h.insert_dir hu (kind_eq_true.mpr ⟨_, ht⟩)) hrest
    · exact ih h hrest
    · exact ⟨rfl, h⟩

theorem Agree.write (h : Agree exact way u t) (data : ByteArray) (mode : FileMode) (hp : exact p)
    (hd : ∀ d ∈ p.parentDirs, way d) :
    (write p data mode t).1 = (write p data mode u).1 ∧ Agree exact way (write p data mode u).2 (write p data mode t).2 := by
  obtain ⟨answer, made⟩ := h.makeMissing .privateDirectory hd
  unfold MemTree.write
  rw [createParents_eq, h.same p hp]
  split
  · exact ⟨rfl, h⟩
  · rcases ht : MemTree.makeMissing .privateDirectory p.parentDirs t with ⟨_ | _, t'⟩ <;>
      rcases hu : MemTree.makeMissing .privateDirectory p.parentDirs u with ⟨_ | _, u'⟩ <;>
      simp only [ht, hu, reduceCtorEq, Except.error.injEq] at answer made
    · subst answer
      exact ⟨rfl, made⟩
    · exact ⟨rfl, made.insert p _⟩

theorem read_congr (h : t.get? p = u.get? p) : (t.read p).1 = (u.read p).1 := by
  unfold MemTree.read
  rw [h]
  split <;> rfl

end MemTree

theorem Fetcher.fetch_congr {f : Fetcher} {locator : String} {u t : MemTree}
    (h : ∀ q, f.Reads locator q → t.get? q = u.get? q) : f.fetch locator t = f.fetch locator u := by
  cases f with
  | fixed answer => rfl
  | located web =>
    simp only [Fetcher.fetch, Locator.fetch]
    cases hu : Url.read locator with
    | error e => rfl
    | ok url =>
      dsimp only
      split
      · unfold Locator.ofWeb
        cases hw : web url <;> simp only [hw]
      · split
        · next hfile =>
          unfold Locator.ofFile
          cases hp : url.filePath? with
          | none => rfl
          | some p =>
            have hread : (MemTree.fileSystem.read p t).1 = (MemTree.fileSystem.read p u).1 :=
              MemTree.read_congr (h p ⟨url, hu, hfile, hp⟩)
            simp only [hread]
        · rfl

/-- A call is answered alike in trees that agree where it looks. --/
theorem World.answers_agree {w : World} {c : Call} {exact way : Path → Prop} {u t : MemTree}
    (h : MemTree.Agree exact way u t) (dirs : ∀ d ∈ c.dirs, way d) (writes : ∀ q, c.Writes q → exact q)
    (reads : ∀ q, w.Reads c q → exact q) :
    (w.handler c t).1 = (w.handler c u).1 ∧ MemTree.Agree exact way (w.handler c u).2 (w.handler c t).2 := by
  cases c with
  | makeDirs p m =>
    obtain ⟨answer, made⟩ := h.makeMissing m dirs
    exact ⟨congrArg some answer, made⟩
  | write p data m =>
    obtain ⟨answer, made⟩ := h.write data m (writes p (Path.Same.refl p)) dirs
    exact ⟨congrArg some answer, made⟩
  | read p =>
    have unread : ∀ t : MemTree, (w.handler (.read p) t).2 = t := MemTree.read_snd p
    rw [unread, unread]
    exact ⟨congrArg some (MemTree.read_congr (h.same p (reads p rfl))), h⟩
  | fetch locator => exact ⟨congrArg some (Fetcher.fetch_congr fun q hq => h.same q (reads q hq)), h⟩
  | _ => exact ⟨rfl, h⟩

/-! ### Parties -/

/-- A way for a call to fail: an answer that does not grant it, or no answer at all. --/
abbrev Failure (c : Call) : Type := { r : Option c.Reply // ¬Granted ⟨c, r⟩ }

/-- One who connects a run in a world. Its calls are counted, and each may be made to fail. --/
structure Party where
  connector : Connector
  run : AnsibleRun
  world : World
  failure : Nat → (c : Call) → Option (Failure c)

namespace Party

def task (a : Party) : Task ConnectError Connection := a.connector.connect (.run a.run)

def handler (a : Party) : Handler calls (Nat × MemTree) := fun c s =>
  match a.failure s.1 c with
  | some r => (r.1, s.1 + 1, s.2)
  | none => ((a.world.handler c s.2).1, s.1 + 1, (a.world.handler c s.2).2)

-- What the party does when it is alone: its calls, its end, and the tree that it leaves.

def calls (a : Party) (t : MemTree) : Record := a.task.exchanges a.handler (0, t)

def result (a : Party) (t : MemTree) : Option (Except ConnectError Connection) := (a.task.run a.handler (0, t)).1

def tree (a : Party) (t : MemTree) : MemTree := (a.task.run a.handler (0, t)).2.2

def Given (a : Party) (config : ProviderConfig) : Prop :=
  a.world.providerConfig (a.run.providerConfig.getD "") = .ok config

/-- A selector of the party names `q`, or the locator of its playbook does. --/
def Looks (a : Party) (q : Path) : Prop :=
  (∃ config, a.Given config ∧ q ∈ selectedPaths config) ∨
    a.run.source = .remote ∧ a.world.fetcher.Reads a.run.parameters.playbook q

/-- The party writes at `q`, or makes a directory there, when it is alone. --/
def Touches (a : Party) (t : MemTree) (q : Path) : Prop :=
  ∃ x ∈ a.calls t, Granted x ∧ (x.call.Writes q ∨ t.get? q = none ∧ ∃ d ∈ x.call.dirs, d.Same q)

def roots (a : Party) : List (List Component) :=
  [a.connector.staging.base.components, a.connector.gitStaging.base.components]

/-- The directories of the party under the two roots. --/
def homes (a : Party) : List (List Component) := a.roots.map (· ++ [.normal a.run.uid.text])

/-- One of the directories of the party is at `q`, or `q` is below it. --/
def Owns (a : Party) (q : Path) : Prop := ∃ home ∈ a.homes, home <+: q.components

end Party

/-- Two parties with the same roots connect different runs, and neither looks where the other makes or writes something.
    The roots of the two kinds are one, or none of them is above the other. --/
structure Neighbours (a b : Party) (t : MemTree) : Prop where
  base : a.connector.staging.base.Same b.connector.staging.base
  gitBase : a.connector.gitStaging.base.Same b.connector.gitStaging.base
  roots : a.connector.staging.base.Same a.connector.gitStaging.base ∨
    ¬a.connector.staging.base.components <+: a.connector.gitStaging.base.components ∧
      ¬a.connector.gitStaging.base.components <+: a.connector.staging.base.components
  distinct : a.run.uid ≠ b.run.uid
  overlooks : ∀ q, a.Looks q → ¬b.Touches t q
  overlooks' : ∀ q, b.Looks q → ¬a.Touches t q

/-- A party that ended so, with these calls, in a common tree `t'`, did as it does alone, and has its files. --/
structure Party.Undisturbed (a : Party) (t t' : MemTree) (l : Record) (o : Option (Except ConnectError Connection)) :
    Prop where
  result : a.result t = o
  calls : a.calls t = l
  files : ∀ q, a.Owns q → t'.get? q = (a.tree t).get? q

namespace Party
variable {a : Party} {x : Exchange AnsibleStaging.calls} {s s' : Nat × MemTree} {t : MemTree} {q : Path}

/-! ### The calls of a party -/

theorem gives_cases (h : a.handler.Gives x s s') : s'.1 = s.1 + 1 ∧
    ((∃ r, a.failure s.1 x.call = some r ∧ x.reply = r.1 ∧ s'.2 = s.2) ∨
      a.failure s.1 x.call = none ∧ a.world.handler.Gives x s.2 s'.2) := by
  simp only [Handler.Gives, handler] at h
  split at h
  · next r hr =>
    obtain ⟨hreply, hs⟩ := Prod.mk.inj h
    obtain rfl := hs.symm
    exact ⟨rfl, Or.inl ⟨r, hr, hreply.symm, rfl⟩⟩
  · next hr =>
    obtain ⟨hreply, hs⟩ := Prod.mk.inj h
    obtain rfl := hs.symm
    exact ⟨rfl, Or.inr ⟨hr, Prod.ext hreply rfl⟩⟩

theorem disturbed (h : a.handler.Gives x s s') : a.world.Disturbed x s.2 s'.2 := by
  rcases (gives_cases h).2 with ⟨⟨r, refused⟩, -, hr, ht⟩ | ⟨-, hg⟩
  · obtain rfl : x.reply = r := hr
    exact Or.inr ⟨refused, ht⟩
  · exact Or.inl hg

theorem supplies (h : a.handler.Gives x s s') : Supplies a.run a.Given x := by
  rintro config rfl
  rcases disturbed h with hg | ⟨hnot, -⟩
  · have heq : some (a.world.providerConfig (a.run.providerConfig.getD "")) = some (.ok config) := congrArg Prod.fst hg
    exact Option.some.inj heq
  · exact absurd (granted_some.mpr rfl) hnot

theorem mayAsk {l : Record} {o : Option (Except ConnectError Connection)} (hf : a.task.Follows l o)
    (hl : ∀ x ∈ l, ∃ s s', a.handler.Gives x s s') : ∀ x ∈ l, a.connector.MayAsk a.run a.Given x.call := by
  refine (within_stage a.connector a.run a.Given).calls hf fun x hx => ?_
  obtain ⟨s, s', hg⟩ := hl x hx
  exact supplies hg

theorem mayAsk_calls (hx : x ∈ a.calls t) : a.connector.MayAsk a.run a.Given x.call :=
  mayAsk (follows_exchanges a.handler a.task (0, t)) (fun _ hx => (occurs_exchanges a.handler a.task _).exists_of_mem hx) x hx

theorem looks_of_reads (h : a.connector.MayAsk a.run a.Given x.call) (hq : a.world.Reads x.call q) : a.Looks q := by
  obtain ⟨c, r⟩ := x
  cases c with
  | read p =>
    obtain rfl : p = q := hq
    exact Or.inl h
  | fetch locator =>
    obtain ⟨hs, rfl⟩ := h
    exact Or.inr ⟨hs, hq⟩
  | _ => exact hq.elim

theorem exists_home_of_onWay (h : a.connector.OnWay a.run q) : ∃ home ∈ a.homes, q.components <+: home := by
  obtain ⟨-, hpre | ⟨-, hpre⟩⟩ := h
  · exact ⟨_, List.mem_cons_self, hpre⟩
  · exact ⟨_, List.mem_cons_of_mem _ List.mem_cons_self, hpre⟩

theorem owns_of_ownFile (h : a.connector.OwnFile a.run q) : a.Owns q := by
  rcases h with ⟨name, hq⟩ | ⟨-, hq⟩
  · exact ⟨_, List.mem_cons_self, hq ▸ List.prefix_append _ _⟩
  · exact ⟨_, List.mem_cons_of_mem _ List.mem_cons_self, hq ▸ List.prefix_append _ _⟩

theorem Touches.cases (h : a.Touches t q) : (∃ home ∈ a.homes, q.components <+: home) ∨ a.Owns q := by
  obtain ⟨x, hx, -, hw | ⟨-, hd⟩⟩ := h
  · exact Or.inr (owns_of_ownFile ((mayAsk_calls hx).ownFile hw))
  · exact Or.inl (exists_home_of_onWay ((mayAsk_calls hx).onWay hd))

end Party

/-! ### Calls on a tree -/

namespace Stored
variable {x : Exchange calls} {k k' : MemTree}

theorem closed (h : Stored x k k') (hk : k.Closed) : k'.Closed := by
  rcases h.cases with rfl | ⟨p, m, -, rfl⟩ | ⟨p, data, m, -, rfl⟩
  · exact hk
  · exact hk.makeDirs
  · exact hk.write

theorem eq_of_not_granted (h : Stored x k k') (hk : k.Closed) (hx : ¬Granted x) : k' = k := by
  obtain ⟨c, r⟩ := x
  cases c with
  | makeDirs p m =>
    rcases h with ⟨rfl, rfl⟩ | ⟨-, rfl⟩
    · cases hr : (k.makeDirs p m).1 with
      | ok => exact absurd (granted_some.mpr (by rw [hr]; rfl)) hx
      | error e => exact hk.makeDirs_error hr
    · rfl
  | write p data m =>
    rcases h with ⟨rfl, rfl⟩ | ⟨-, rfl⟩
    · cases hr : (k.write p data m).1 with
      | ok => exact absurd (granted_some.mpr (by rw [hr]; rfl)) hx
      | error e => exact hk.write_error hr
    · rfl
  | _ => exact h

end Stored

/-! ### Alone and together -/

namespace Party
variable {a : Party} {x : Exchange AnsibleStaging.calls} {t₀ u k k' : MemTree}

/-- What the party sees in a common tree `k` is what it would see alone in `u`, after both began with `t₀`. --/
structure Sees (a : Party) (t₀ u k : MemTree) : Prop where
  agree : MemTree.Agree (fun q => a.Owns q ∨ a.Looks q) (a.connector.OnWay a.run) u k
  closed : k.Closed
  grows : MemTree.Grows (fun _ => False) t₀ k

theorem Sees.own (h : a.Sees t₀ u k) (hx : a.connector.MayAsk a.run a.Given x.call) {n n' : Nat}
    (hg : a.handler.Gives x (n, k) (n', k')) : ∃ u', a.handler.Gives x (n, u) (n', u') ∧ a.Sees t₀ u' k' := by
  have stored := (disturbed hg).stored
  have closed : k'.Closed := stored.closed h.closed
  have grows : MemTree.Grows (fun _ => False) t₀ k' := h.grows.trans (stored.grows fun _ => False.elim)
  obtain ⟨hn, ⟨r, hf, hr, hk⟩ | ⟨hf, hw⟩⟩ := gives_cases hg
  · obtain rfl : k' = k := hk
    refine ⟨u, ?_, h⟩
    simp only [Handler.Gives, handler, hf]
    rw [hr, show n' = n + 1 from hn]
  · have dirs : ∀ d ∈ x.call.dirs, a.connector.OnWay a.run d := fun d hd => hx.onWay ⟨d, hd, Path.Same.refl d⟩
    obtain ⟨answer, agree⟩ := World.answers_agree h.agree dirs (fun q hq => Or.inl (owns_of_ownFile (hx.ownFile hq)))
      fun q hq => Or.inr (looks_of_reads hx hq)
    have hk : (a.world.handler x.call k) = (x.reply, k') := hw
    rw [hk] at answer agree
    refine ⟨(a.world.handler x.call u).2, ?_, agree, closed, grows⟩
    simp only [Handler.Gives, handler, hf]
    rw [← answer, show n' = n + 1 from hn]

end Party

namespace Neighbours
variable {a b : Party} {t : MemTree} {q : Path}

theorem symm (h : Neighbours a b t) : Neighbours b a t where
  base := h.base.symm
  gitBase := h.gitBase.symm
  roots := by
    have hb : a.connector.staging.base.components = b.connector.staging.base.components := h.base
    have hg : a.connector.gitStaging.base.components = b.connector.gitStaging.base.components := h.gitBase
    have roots := h.roots
    rwa [Path.Same, hb, hg] at roots
  distinct := h.distinct.symm
  overlooks := h.overlooks'
  overlooks' := h.overlooks

theorem roots_eq (h : Neighbours a b t) : b.roots = a.roots := by
  have hb : a.connector.staging.base.components = b.connector.staging.base.components := h.base
  have hg : a.connector.gitStaging.base.components = b.connector.gitStaging.base.components := h.gitBase
  rw [Party.roots, Party.roots, hb, hg]

theorem root_eq (h : Neighbours a b t) {X Y : List Component} (hX : X ∈ a.roots) (hY : Y ∈ a.roots) (hpre : X <+: Y) :
    X = Y := by
  have roots : a.connector.staging.base.components = a.connector.gitStaging.base.components ∨ _ := h.roots
  rcases List.mem_pair.mp hX with rfl | rfl <;> rcases List.mem_pair.mp hY with rfl | rfl
  · rfl
  · exact roots.resolve_right fun hr => hr.1 hpre
  · exact (roots.resolve_right fun hr => hr.2 hpre).symm
  · rfl

/-- No place belongs to directories of both. --/
theorem apart (h : Neighbours a b t) {l l' r : List Component} (hl : l ∈ a.homes) (hl' : l' ∈ b.homes) (hr : l <+: r) :
    ¬l' <+: r := by
  intro hr'
  obtain ⟨X, hX, rfl⟩ := List.mem_map.mp hl
  obtain ⟨Y, hY, rfl⟩ := List.mem_map.mp hl'
  rw [h.roots_eq] at hY
  obtain rfl : X = Y := by
    rcases List.prefix_or_prefix_of_prefix ((List.prefix_append _ _).trans hr) ((List.prefix_append _ _).trans hr') with
      hpre | hpre
    · exact h.root_eq hX hY hpre
    · exact (h.root_eq hY hX hpre).symm
  have heq := (List.prefix_of_prefix_length_le hr hr' (by simp)).eq_of_length (by simp)
  have htext : a.run.uid.text = b.run.uid.text := by simpa using heq
  exact h.distinct (congrArg Uid.mk htext)

theorem not_owns_of_onWay (h : Neighbours a b t) (hq : b.connector.OnWay b.run q) : ¬a.Owns q := by
  rintro ⟨l, hl, hpre⟩
  obtain ⟨l', hl', hpre'⟩ := Party.exists_home_of_onWay hq
  exact h.apart hl hl' (hpre.trans hpre') (List.prefix_refl l')

theorem not_owns_of_owns (h : Neighbours a b t) (hq : b.Owns q) : ¬a.Owns q := by
  rintro ⟨l, hl, hpre⟩
  obtain ⟨l', hl', hpre'⟩ := hq
  exact h.apart hl hl' hpre hpre'

/-- A call of the other party changes nothing that the party sees. --/
theorem sees_other {t₀ u k k' : MemTree} {y : Exchange calls} (h : Neighbours a b t₀) (hs : a.Sees t₀ u k)
    (hy : y ∈ b.calls t₀) (stored : Stored y k k') : a.Sees t₀ u k' := by
  have may := Party.mayAsk_calls hy
  have change := (stored.contained may.private).places
  refine ⟨⟨fun q hq => ?_, fun q hq => ?_⟩, stored.closed hs.closed,
    hs.grows.trans (stored.grows fun _ => False.elim)⟩
  · rw [← hs.agree.same q hq]
    by_cases granted : Granted y
    · cases change q with
      | kept hk => exact hk
      | made hd free _ =>
        rcases hq with own | looks
        · exact absurd own (h.not_owns_of_onWay (may.onWay hd))
        · -- Nothing stood there at the beginning.
          have free₀ : t₀.get? q = none := by
            rcases hk : t₀.get? q with _ | n
            · rfl
            · have hkind := hs.grows.kinds q n.isDir (by rw [MemTree.kind, hk]; rfl)
              rw [MemTree.kind, free] at hkind
              cases hkind
          exact absurd ⟨y, hy, granted, Or.inr ⟨free₀, hd⟩⟩ (h.overlooks q looks)
      | put hw _ _ _ =>
        rcases hq with own | looks
        · exact absurd own (h.not_owns_of_owns (Party.owns_of_ownFile (may.ownFile hw)))
        · exact absurd ⟨y, hy, granted, Or.inl hw⟩ (h.overlooks q looks)
    · rw [stored.eq_of_not_granted hs.closed granted]
  · rw [← hs.agree.files q hq]
    cases change q with
    | kept hk => rw [MemTree.kind, hk, MemTree.kind]
    | made _ free hd => simp [MemTree.kind, free, hd, Node.isDir]
    | put hw _ _ _ => exact absurd (Party.owns_of_ownFile (may.ownFile hw)) (h.symm.not_owns_of_onWay hq)

theorem insulated (h : Neighbours a b t) : Insulated a.handler b.handler (a.Sees t)
    (fun x => a.connector.MayAsk a.run a.Given x.call) (· ∈ b.calls t) where
  same hx hg hs := hs.own hx hg
  steady hy hg hs := h.sees_other hs hy (Party.disturbed hg).stored

end Neighbours

theorem Party.sees_refl (a : Party) {t : MemTree} (ht : t.Reached) : a.Sees t t t := ⟨.refl t, ht.closed, .refl t⟩

theorem Party.undisturbed {a : Party} {t t' u : MemTree} {n : Nat} {l : Record}
    {o : Option (Except ConnectError Connection)} (hf : a.task.Follows l o)
    (hl : Occurs a.handler.Gives l (0, t) (n, u)) (hs : a.Sees t u t') : a.Undisturbed t t' l o where
  result := congrArg Prod.fst (run_of_follows hf hl)
  calls := exchanges_of_follows hf hl
  files q hq := by
    rw [Party.tree, run_of_follows hf hl]
    exact hs.agree.same q (Or.inl hq)

/-- In whatever order the calls of two neighbours are made, each makes the calls that it makes alone, with the same answers
    and to the same end, and it finds in its directories what it would find there alone. --/
theorem neighbours_undisturbed {a b : Party} {t t' : MemTree} (ht : t.Reached) (h : Neighbours a b t) {l₁ l₂ : Record}
    {o₁ o₂ : Option (Except ConnectError Connection)} {n₁ n₂ : Nat} (first : a.task.Follows l₁ o₁)
    (second : b.task.Follows l₂ o₂) (turns : TakeTurns a.handler b.handler l₁ l₂ (0, 0, t) (n₁, n₂, t')) :
    a.Undisturbed t t' l₁ o₁ ∧ b.Undisturbed t t' l₂ o₂ := by
  obtain ⟨⟨u, hu, hsu⟩, v, hv, hsv⟩ := turns.alone h.insulated (a.sees_refl ht) h.symm.insulated (b.sees_refl ht)
    (Party.mayAsk first turns.gives_left) (Party.mayAsk second turns.gives_right) first second
  exact ⟨Party.undisturbed first hu hsu, Party.undisturbed second hv hsv⟩

/-- Two runs read one key, and the playbook of the second cannot be written. The second connects as a whole after some
    calls of the first. --/
theorem neighbours_undisturbed_full :
    let config : ProviderConfig := ⟨.empty, { ProviderSettings.empty with
      credentials := [⟨"key", .filesystem, { Selectors.empty with path := some "/etc/key" }⟩] }⟩
    let c : Connector := ⟨⟨⟨"/work"⟩⟩, ⟨⟨"/git"⟩⟩, fun _ => none⟩
    let full : Nat → (c : Call) → Option (Failure c) := fun n c =>
      match c with
      | .write _ _ _ =>
        if n = 11 then some ⟨some (.error (.reported .other "full")), fun hx => nomatch granted_some.mp hx⟩ else none
      | _ => none
    let connecting : String → (Nat → (c : Call) → Option (Failure c)) → Party := fun uid failure =>
      ⟨c, ⟨{ Metadata.empty with uid := ⟨uid⟩ }, none, .empty⟩, .granting config .empty, failure⟩
    let a := connecting "u" fun _ _ => none
    let b := connecting "v" full
    let t := (MemTree.write ⟨"/etc/key"⟩ "secret".toUTF8 .privateFile .empty).2
    t.Reached ∧ Neighbours a b t ∧ a.result t = some (.ok ⟨⟨"/work/u"⟩, .plain ⟨"u"⟩ ⟨"/work/u"⟩ "" ""⟩) ∧
      b.result t = some (.error (.writePlaybook (.reported .other "full"))) ∧
      ∃ (l₁ l₂ : Record) (o₁ o₂ : Option (Except ConnectError Connection)) (n₁ n₂ : Nat) (t' : MemTree),
        a.task.Follows l₁ o₁ ∧ b.task.Follows l₂ o₂ ∧ TakeTurns a.handler b.handler l₁ l₂ (0, 0, t) (n₁, n₂, t') ∧
          a.Undisturbed t t' l₁ o₁ ∧ b.Undisturbed t t' l₂ o₂ := by
  intro config c full connecting a b t
  have ht : t.Reached := .write _ _ _ .empty
  have looks : ∀ uid failure q, (connecting uid failure).Looks q → q = ⟨"/etc/key"⟩ := by
    rintro uid failure q (⟨config', hc, hq⟩ | ⟨hs, -⟩)
    · cases hc
      exact List.mem_singleton.mp hq
    · cases hs
  have overlooks : ∀ uid failure, (∀ home ∈ (connecting uid failure).homes,
      ¬(Path.mk "/etc/key").components <+: home ∧ ¬home <+: (Path.mk "/etc/key").components) →
      ∀ uid' failure' q, (connecting uid' failure').Looks q → ¬(connecting uid failure).Touches t q := by
    intro uid failure hhomes uid' failure' q hq touches
    obtain rfl := looks uid' failure' q hq
    rcases touches.cases with ⟨home, hhome, hpre⟩ | ⟨home, hhome, hpre⟩
    · exact (hhomes home hhome).1 hpre
    · exact (hhomes home hhome).2 hpre
  have h : Neighbours a b t := ⟨rfl, rfl, Or.inr (by decide +kernel), by decide +kernel,
    overlooks "v" full (by decide +kernel) "u" _, overlooks "u" _ (by decide +kernel) "v" full⟩
  obtain ⟨l₁, l₂, o₁, o₂, n, n₁, n₂, t₁, t₂, t', first, second, before, middle, after⟩ :=
    TakeTurns.exists_between a.handler b.handler a.task b.task 5 0 0 t
  have turns := TakeTurns.between before middle after
  exact ⟨ht, h, by decide +kernel, by decide +kernel, l₁, l₂, o₁, o₂, n₁, n₂, t', first, second, turns,
    neighbours_undisturbed ht h first second turns⟩

end AnsibleStaging
