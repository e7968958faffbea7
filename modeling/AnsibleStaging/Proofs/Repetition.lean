import AnsibleStaging.Proofs.Granting
import AnsibleStaging.Proofs.Results
import AnsibleStaging.Proofs.TreeGrowth
import AnsibleStaging.Proofs.World

/-! Calls that are made again. A granted call leaves its directories and its file, and these stay. So in a world in
    which only the tree changes the same calls get the same answers a second time, as long as no file is read that they
    write, and they end in the tree in which they ended before: of several writes at one place it is again the last one
    that counts. -/

namespace AnsibleStaging
open Script

namespace Call

/-- The directories that a call makes where they are missing. --/
def dirs : Call → List Path
  | makeDirs p _ => p.dirs
  | write p _ _ => p.parentDirs
  | _ => []

/-- The call replaces the file at `q`. --/
def Writes : Call → Path → Prop
  | write p _ _, q => p.Same q
  | _, _ => False

theorem not_writes_of_mem_dirs {c : Call} {d : Path} (h : d ∈ c.dirs) : ¬c.Writes d := by
  cases c with
  | write p data mode => exact fun hs => Path.not_same_of_mem_parentDirs h (Path.Same.symm hs)
  | _ => exact id

end Call

/-- The kinds that a granted call leaves: its file, its directories, and everything else as it was. --/
structure Builds (c : Call) (t t' : MemTree) : Prop where
  file : ∀ q, c.Writes q → t'.kind q = some false
  dirs : ∀ d ∈ c.dirs, ∀ q, d.Same q → ¬c.Writes q → t'.kind q = some true
  elsewhere : ∀ q, ¬c.Writes q → (∀ d ∈ c.dirs, ¬d.Same q) → t'.kind q = t.kind q

/-- All that the call builds stands. --/
structure Built (c : Call) (t : MemTree) : Prop where
  file : ∀ q, c.Writes q → t.kind q = some false
  dirs : ∀ d ∈ c.dirs, t.kind d = some true

section
variable {c : Call} {x : Exchange calls} {l : Record} {t t' u s s' : MemTree} {p q : Path} {kept : Path → Prop}

theorem Builds.built (h : Builds c t t') : Built c t' where
  file := h.file
  dirs d hd := h.dirs d hd d (Path.Same.refl d) (Call.not_writes_of_mem_dirs hd)

theorem Built.grows (h : Built c t) (g : MemTree.Grows kept t s) : Built c s where
  file q hq := g.kinds q _ (h.file q hq)
  dirs d hd := g.kinds d _ (h.dirs d hd)

theorem Builds.grows (h : Builds c t t') (h' : Builds c s s') (g : MemTree.Grows kept t s)
    (ht : MemTree.Grows kept t t') (hs : MemTree.Grows kept s s') : MemTree.Grows kept t' s' where
  kinds q b hq := by
    by_cases hw : c.Writes q
    · rw [h.file q hw] at hq
      rw [h'.file q hw, hq]
    · by_cases hd : ∃ d ∈ c.dirs, d.Same q
      · obtain ⟨d, hd, hsame⟩ := hd
        rw [h.dirs d hd q hsame hw] at hq
        rw [h'.dirs d hd q hsame hw, hq]
      · have hd' : ∀ d ∈ c.dirs, ¬d.Same q := fun d hd' hsame => hd ⟨d, hd', hsame⟩
        rw [h.elsewhere q hw hd'] at hq
        rw [h'.elsewhere q hw hd']
        exact g.kinds q b hq
  contents q hq := (hs.contents q hq).trans ((g.contents q hq).trans (ht.contents q hq).symm)

/-! ### What a call does to the tree -/

namespace Stored

theorem of_granted {r : Option (Except IoError Unit)} {a : Except IoError Unit × MemTree}
    (h : (r = some a.1 ∧ t' = a.2) ∨ (r ≠ some (.ok ()) ∧ t' = t)) (hr : r = some (.ok ())) :
    a.1 = .ok () ∧ t' = a.2 := by
  rcases h with ⟨ha, rfl⟩ | ⟨hnot, -⟩
  · exact ⟨Option.some.inj (ha.symm.trans hr), rfl⟩
  · exact absurd hr hnot

theorem builds (h : Stored x t t') (hx : Granted x) : Builds x.call t t' := by
  obtain ⟨c, r⟩ := x
  cases c with
  | makeDirs p m =>
    obtain ⟨hok, rfl⟩ := of_granted h (eq_some_ok hx)
    have hkind := MemTree.kind_makeDirs hok
    refine ⟨nofun, fun d hd q hs _ => ?_, fun q _ hd => ?_⟩
    · exact (hkind q).trans (if_pos ⟨d, hd, hs⟩)
    · exact (hkind q).trans (if_neg fun ⟨d, hd', hs⟩ => hd d hd' hs)
  | write p data m =>
    obtain ⟨hok, rfl⟩ := of_granted h (eq_some_ok hx)
    have hkind := MemTree.kind_write hok
    refine ⟨fun q (hq : p.Same q) => ?_, fun d hd q hs (hq : ¬p.Same q) => ?_, fun q (hq : ¬p.Same q) hd => ?_⟩
    · exact (hkind q).trans (if_pos hq)
    · exact (hkind q).trans ((if_neg hq).trans (if_pos ⟨d, hd, hs⟩))
    · exact (hkind q).trans ((if_neg hq).trans (if_neg fun ⟨d, hd', hs⟩ => hd d hd' hs))
  | _ =>
    obtain rfl : t' = t := h
    exact ⟨nofun, nofun, fun _ _ _ => rfl⟩

theorem grows (h : Stored x t t') (hx : ∀ q, kept q → ¬x.call.Writes q) : MemTree.Grows kept t t' := by
  rcases h.cases with rfl | ⟨p, m, -, rfl⟩ | ⟨p, data, m, hc, rfl⟩
  · exact .refl _
  · exact MemTree.grows_makeMissing _ _ _
  · rw [hc] at hx
    exact MemTree.grows_write data m t hx

theorem ordered (h : Stored x t t') (ht : t.Ordered) : t'.Ordered := by
  rcases h.cases with rfl | ⟨p, m, -, rfl⟩ | ⟨p, data, m, -, rfl⟩
  · exact ht
  · exact ht.makeMissing
  · exact ht.write

/-- Where all that it builds stands, a call changes the contents of its file alone. --/
theorem of_built (h : Stored x t t') (hb : Built x.call t) (ht : t.Ordered) :
    t'.spellings = t.spellings ∧ ∀ q, ¬x.call.Writes q → t'.get? q = t.get? q := by
  rcases h.cases with rfl | ⟨p, m, hc, rfl⟩ | ⟨p, data, m, hc, rfl⟩
  · exact ⟨rfl, fun _ _ => rfl⟩
  · rw [hc] at hb
    have hmade : t.makeDirs p m = (.ok (), t) := MemTree.makeMissing_of_kind hb.dirs
    rw [hmade]
    exact ⟨rfl, fun _ _ => rfl⟩
  · rw [hc] at hb ⊢
    have hfile := hb.file p (Path.Same.refl p)
    obtain ⟨d, m', hget⟩ := MemTree.kind_eq_false.mp hfile
    rw [MemTree.write_of_kind hb.dirs hfile]
    exact ⟨MemTree.spellings_insert ht hget _, fun q hq => MemTree.get?_insert_of_not_same hq⟩

theorem get?_of_writes (h : Stored x t t') (hx : Granted x) (hq : x.call.Writes q) :
    ∃ p data m, x.call = .write p data m ∧ t'.get? q = some (.file data m) := by
  obtain ⟨c, r⟩ := x
  cases c with
  | write p data m =>
    obtain ⟨hok, rfl⟩ := of_granted h (eq_some_ok hx)
    exact ⟨p, data, m, rfl, MemTree.get?_write hok hq⟩
  | _ => cases hq

end Stored

theorem grows_of_occurs (h : Occurs Stored l t t') (hl : ∀ x ∈ l, ∀ q, kept q → ¬x.call.Writes q) :
    MemTree.Grows kept t t' := by
  induction h with
  | nil => exact .refl _
  | cons first _ ih =>
    obtain ⟨hx, hl⟩ := List.forall_mem_cons.mp hl
    exact (first.grows hx).trans (ih hl)

theorem ordered_of_occurs (h : Occurs Stored l t t') (ht : t.Ordered) : t'.Ordered :=
  h.keeps (fun _ _ _ _ hs => hs.ordered) ht

theorem get?_of_not_writes {n : Node} (h : Occurs Stored l t t') (hl : ∀ x ∈ l, ¬x.call.Writes q)
    (ht : t.get? q = some n) : t'.get? q = some n := by
  refine h.keeps (p := fun t => t.get? q = some n) ?_ ht
  intro x hx s s' hs hn
  refine hs.get?_eq hn fun p data m hc hsame => ?_
  refine absurd ?_ (hl x hx)
  rw [hc]
  exact hsame

/-- Of several writes at one place the last one counts, whatever stood there before. --/
theorem get?_eq_or_not_writes (h : Occurs Stored l t t') (h' : Occurs Stored l s s') (hl : ∀ x ∈ l, Granted x)
    (q : Path) : t'.get? q = s'.get? q ∨ ∀ x ∈ l, ¬x.call.Writes q := by
  induction h generalizing s with
  | nil => exact Or.inr (by simp)
  | @cons x l t u t' first rest ih =>
    obtain ⟨hx, hl⟩ := List.forall_mem_cons.mp hl
    cases h' with
    | cons first' rest' =>
      rcases ih rest' hl with heq | hnot
      · exact Or.inl heq
      · by_cases hw : x.call.Writes q
        · left
          obtain ⟨p, data, m, hc, hget⟩ := first.get?_of_writes hx hw
          obtain ⟨p', data', m', hc', hget'⟩ := first'.get?_of_writes hx hw
          obtain ⟨-, rfl, rfl⟩ : p = p' ∧ data = data' ∧ m = m' := by simpa using hc.symm.trans hc'
          rw [get?_of_not_writes rest hnot hget, get?_of_not_writes rest' hnot hget']
        · exact Or.inr (List.forall_mem_cons.mpr ⟨hw, hnot⟩)

end

/-! ### Answers -/

theorem MemTree.read_ok_iff {t : MemTree} {p : Path} {data : ByteArray} :
    (t.read p).1 = .ok data ↔ t.contents p = some data := by
  unfold MemTree.read MemTree.contents
  rcases t.get? p with _ | (m | ⟨d, m⟩) <;> simp [Node.data?]

/-- The fetcher looks into the file at a path. --/
def Fetcher.Reads (locator : String) (q : Path) : Fetcher → Prop
  | fixed _ => False
  | located _ => ∃ u, Url.read locator = .ok u ∧ u.scheme = "file" ∧ u.filePath? = some q

theorem Fetcher.fetch_of_contents {f : Fetcher} {locator : String} {s t : MemTree} {data : ByteArray}
    (hr : f.fetch locator s = .ok data) (h : ∀ q, f.Reads locator q → t.contents q = s.contents q) :
    f.fetch locator t = .ok data := by
  cases f with
  | fixed answer => exact hr
  | located web =>
    simp only [Fetcher.fetch, Locator.fetch] at hr ⊢
    cases hu : Url.read locator with
    | error e => simp only [hu, reduceCtorEq] at hr
    | ok u =>
      simp only [hu] at hr ⊢
      by_cases hweb : u.scheme = "http" ∨ u.scheme = "https"
      · -- The web answers whatever the tree holds.
        simp only [if_pos hweb, Locator.ofWeb] at hr ⊢
        cases hw : web u with
        | error why => simp only [hw, reduceCtorEq] at hr
        | ok a =>
          simp only [hw] at hr ⊢
          exact hr
      · by_cases hfile : u.scheme = "file"
        · cases hp : u.filePath? with
          | none => simp only [if_neg hweb, if_pos hfile, Locator.ofFile, hp, reduceCtorEq] at hr
          | some p =>
            simp only [if_neg hweb, if_pos hfile, Locator.ofFile, hp] at hr ⊢
            have hdata := MemTree.read_ok_iff.mp (eq_ok_of_mapError hr)
            rw [← h p ⟨u, hu, hfile, hp⟩] at hdata
            have hread : (MemTree.fileSystem.read p t).1 = .ok data := MemTree.read_ok_iff.mpr hdata
            rw [hread]
            rfl
        · simp only [if_neg hweb, if_neg hfile, reduceCtorEq] at hr

namespace World
variable {w : World} {x : Exchange calls} {l : Record} {t t' u s : MemTree} {kept : Path → Prop}

/-- The answer to the call hangs on the file at `q`. --/
def Reads (w : World) : Call → Path → Prop
  | .read p, q => p = q
  | .fetch locator, q => w.fetcher.Reads locator q
  | _, _ => False

/-- The call reads at kept paths alone, and writes at none of them. --/
structure Heeds (w : World) (kept : Path → Prop) (c : Call) : Prop where
  reads : ∀ q, w.Reads c q → kept q
  writes : ∀ q, kept q → ¬c.Writes q

theorem answers_of (h : (w.handler x.call s).1 = x.reply) (hx : Granted x)
    (hc : ∀ q, w.Reads x.call q → t.contents q = s.contents q)
    (hm : ∀ p m, x.call = .makeDirs p m → (s.makeDirs p m).1 = .ok () → (t.makeDirs p m).1 = .ok ())
    (hw : ∀ p data m, x.call = .write p data m → (s.write p data m).1 = .ok () → (t.write p data m).1 = .ok ()) :
    (w.handler x.call t).1 = x.reply := by
  obtain ⟨c, r⟩ := x
  cases c with
  | makeDirs p m =>
    obtain rfl := eq_some_ok hx
    exact congrArg some (hm p m rfl (Option.some.inj h))
  | write p data m =>
    obtain rfl := eq_some_ok hx
    exact congrArg some (hw p data m rfl (Option.some.inj h))
  | read p =>
    cases hr : (s.read p).1 with
    | error e =>
      have hrep : r = some (.error e) := h.symm.trans (congrArg some hr)
      subst hrep
      cases granted_some.mp hx
    | ok data =>
      have ht : (t.read p).1 = .ok data := by
        rw [MemTree.read_ok_iff, hc p rfl]
        exact MemTree.read_ok_iff.mp hr
      exact (congrArg some (ht.trans hr.symm)).trans h
  | fetch locator =>
    cases hr : w.fetcher.fetch locator s with
    | error e =>
      have hrep : r = some (.error e) := h.symm.trans (congrArg some hr)
      subst hrep
      cases granted_some.mp hx
    | ok data => exact (congrArg some ((Fetcher.fetch_of_contents hr hc).trans hr.symm)).trans h
  | _ => exact h

/-- A call that is granted later gets the same answer before. --/
theorem gives_before (g : MemTree.Grows kept t s) {s' : MemTree} (h : w.handler.Gives x s s') (hx : Granted x)
    (hr : w.Heeds kept x.call) : ∃ t', w.handler.Gives x t t' := by
  refine ⟨_, Prod.ext (answers_of (congrArg Prod.fst h) hx (fun q hq => (g.contents q (hr.reads q hq)).symm) ?_ ?_) rfl⟩
  · exact fun _ _ _ => g.makeMissing_ok
  · exact fun _ _ _ _ => g.write_ok

/-- A call whose buildings stand gets the same answer again. --/
theorem gives_again (g : MemTree.Grows kept t s) (h : w.handler.Gives x t t') (hx : Granted x)
    (hr : w.Heeds kept x.call) (hb : Built x.call s) : ∃ s', w.handler.Gives x s s' := by
  refine ⟨_, Prod.ext (answers_of (congrArg Prod.fst h) hx (fun q hq => g.contents q (hr.reads q hq)) ?_ ?_) rfl⟩
  · intro p m hc _
    rw [hc] at hb
    exact congrArg Prod.fst (MemTree.makeMissing_of_kind hb.dirs)
  · intro p data m hc _
    rw [hc] at hb
    exact congrArg Prod.fst (MemTree.write_of_kind hb.dirs (hb.file p (Path.Same.refl p)))

theorem stored (h : w.handler.Gives x t t') : Stored x t t' := by
  have hs := w.inMemory x.call t
  rw [h] at hs
  exact hs

theorem occurs_stored (h : Occurs w.handler.Gives l t t') : Occurs Stored l t t' := w.inMemory.occurs h

/-- Calls that have been granted are granted again, and change only the contents of their files. --/
theorem occurs_again (h : Occurs w.handler.Gives l t u) (granted : ∀ x ∈ l, Granted x)
    (heeds : ∀ x ∈ l, w.Heeds kept x.call) (g : MemTree.Grows kept u s) (hs : s.Ordered) : ∃ s', Occurs w.handler.Gives l s s' ∧
      s'.spellings = s.spellings ∧ ∀ q, (∀ x ∈ l, ¬x.call.Writes q) → s'.get? q = s.get? q := by
  induction h generalizing s with
  | nil => exact ⟨s, .nil s, rfl, fun _ _ => rfl⟩
  | @cons x l t v u first rest ih =>
    obtain ⟨hx, granted⟩ := List.forall_mem_cons.mp granted
    obtain ⟨hr, heeds⟩ := List.forall_mem_cons.mp heeds
    have hvu : MemTree.Grows kept v u := grows_of_occurs (occurs_stored rest) fun x hx => (heeds x hx).writes
    have hb : Built x.call s := ((stored first).builds hx).built.grows (hvu.trans g)
    have hts : MemTree.Grows kept t s := ((stored first).grows hr.writes).trans (hvu.trans g)
    obtain ⟨s₁, hgives⟩ := gives_again hts first hx hr hb
    obtain ⟨hspell, hget⟩ := (stored hgives).of_built hb hs
    obtain ⟨s', hocc, hspell', hget'⟩ :=
      ih granted heeds (g.trans ((stored hgives).grows hr.writes)) ((stored hgives).ordered hs)
    refine ⟨s', .cons hgives hocc, hspell'.trans hspell, fun q hq => ?_⟩
    obtain ⟨hq, hrest⟩ := List.forall_mem_cons.mp hq
    rw [hget' q hrest, hget q hq]

/-- Calls that are made again end in the tree in which they ended. --/
theorem occurs_same (h : Occurs w.handler.Gives l t u) (granted : ∀ x ∈ l, Granted x)
    (heeds : ∀ x ∈ l, w.Heeds kept x.call) (ht : t.Ordered) : Occurs w.handler.Gives l u u := by
  have hu : u.Ordered := ordered_of_occurs (occurs_stored h) ht
  obtain ⟨s, hs, hspell, hget⟩ := occurs_again h granted heeds (.refl u) hu
  obtain rfl : s = u := by
    refine MemTree.ext_of_ordered (ordered_of_occurs (occurs_stored hs) hu) hu hspell fun q => ?_
    rcases get?_eq_or_not_writes (occurs_stored h) (occurs_stored hs) granted q with heq | hnot
    · exact heq.symm
    · exact hget q hnot
  exact hs

end World
end AnsibleStaging
