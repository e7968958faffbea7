import AnsibleStaging.Proofs.HostFiles

/-! The tree in memory is a double of a host. Both do what is said on one view: so from the same start they answer alike
    and show the same, call after call, whatever the calls are and wherever they fail. On the host no file is left but
    those that calls have written. -/

namespace AnsibleStaging
open HostTree (IsToken FreshFor callsNaming)

/-- Whenever one of the calls replaces a file, nothing has the name that is made up for it. --/
def HostTree.FreshNames (names : Nat → String) (host : HostTree) (calls : List PlaceCall) : Prop :=
  ∀ done call, done ++ [call] <+: calls → FreshFor names ((callsNaming names).fileSystem.after done host) call

/-- Nothing is there but the root. --/
def View.bare : View := fun place => if place = [] then some .dir else none

theorem View.isTree_bare : View.bare.IsTree where
  root := rfl
  closed d place hd hne hplace := by
    unfold bare at hplace
    split at hplace
    · next hnil =>
      rw [hnil] at hd hne
      exact absurd (List.prefix_nil.mp hd) hne
    · exact absurd rfl hplace

/-- A tree in memory and a host that show the same. --/
structure Alike (memory : MemTree) (host : HostTree) : Prop where
  closed : memory.Closed
  rooted : memory.places.IsRooted
  sound : host.Sound
  same : memory.view = host.view

variable {names : Nat → String} {memory : MemTree} {host : HostTree} {calls done : List PlaceCall} {call : PlaceCall}

theorem view_of_entries (h : host.entries = []) : host.view = View.bare := by
  funext place
  unfold HostTree.view HostTree.get? View.bare
  rw [h]
  split <;> rfl

theorem alike_start (hempty : host.entries = []) (hlimits : host.limits = .unbounded) : Alike .empty host where
  closed := fun _ _ _ hq => absurd rfl hq
  rooted := ⟨rfl, fun _ hc => absurd rfl hc⟩
  sound := ⟨by rw [view_of_entries hempty]; exact View.isTree_bare, hlimits⟩
  same := by
    rw [view_of_entries hempty]
    rfl

/-- One call is answered alike, and what is shown is the same again. --/
theorem Alike.step (h : Alike memory host) (htokens : ∀ k, IsToken (names k)) (hcall : call.Proper)
    (hfresh : FreshFor names host call) :
    (MemTree.fileSystem.perform call memory).1.toOption = ((callsNaming names).fileSystem.perform call host).1.toOption ∧
      Alike (MemTree.fileSystem.perform call memory).2 ((callsNaming names).fileSystem.perform call host).2 := by
  obtain ⟨hmemory, hclosed, hrooted⟩ := MemTree.follows_call hcall h.closed h.rooted
  obtain ⟨hhost, hsound⟩ := HostTree.follows_call h.sound hcall htokens hfresh
  refine ⟨?_, hclosed, hrooted, hsound, ?_⟩
  · rw [hmemory.answer, hhost.answer, h.same]
  · rw [hmemory.seen, hhost.seen, h.same]

theorem alike_after (hstart : Alike memory host) (htokens : ∀ k, IsToken (names k)) (hproper : ∀ c ∈ calls, c.Proper)
    (hfresh : host.FreshNames names calls) (hdone : done <+: calls) :
    Alike (MemTree.fileSystem.after done memory) ((callsNaming names).fileSystem.after done host) := by
  induction done using List.reverseRecOn with
  | nil => exact hstart
  | append_singleton before call ih =>
    have hcall : call.Proper := hproper call (hdone.subset (by simp))
    rw [FileSystem.after_concat, FileSystem.after_concat]
    exact ((ih ((List.prefix_append _ _).trans hdone)).step htokens hcall (hfresh before call hdone)).2

theorem freshNames_cons (hfirst : FreshFor names host call)
    (hrest : (((callsNaming names).fileSystem.perform call host).2).FreshNames names calls) :
    host.FreshNames names (call :: calls) := by
  intro done c hpre
  cases done with
  | nil =>
    obtain ⟨rfl, -⟩ := List.cons_prefix_cons.mp hpre
    exact hfirst
  | cons first rest =>
    obtain ⟨rfl, hlater⟩ := List.cons_prefix_cons.mp hpre
    exact hrest rest c hlater

/-- What is a file on the host was written by a call. --/
theorem written_of_file {place : List String} {data : ByteArray} {mode : FileMode} (hempty : host.entries = [])
    (hlimits : host.limits = .unbounded) (htokens : ∀ k, IsToken (names k)) (hproper : ∀ c ∈ calls, c.Proper)
    (hfresh : host.FreshNames names calls) (hdone : done <+: calls)
    (hfile : ((callsNaming names).fileSystem.after done host).view place = some (.file data mode)) :
    .write place data mode ∈ done := by
  induction done using List.reverseRecOn with
  | nil =>
    rw [FileSystem.after, view_of_entries hempty] at hfile
    unfold View.bare at hfile
    split at hfile <;> cases hfile
  | append_singleton before call ih =>
    have hbefore : before <+: calls := (List.prefix_append _ _).trans hdone
    have halike := alike_after (alike_start hempty hlimits) htokens hproper hfresh hbefore
    obtain ⟨hhost, -⟩ := HostTree.follows_call halike.sound (hproper call (hdone.subset (by simp))) htokens
      (hfresh before call hdone)
    rw [FileSystem.after_concat, hhost.seen] at hfile
    rcases View.file_of_next hfile with hold | rfl
    · exact List.mem_append_left _ (ih hbefore hold)
    · simp

/-- From nothing below the root, a host does call after call what is said on its view, and the tree in memory answers
    alike and shows the same: the same directories, and the same files with the same bytes and modes. In memory nothing
    is elsewhere, and each file on the host is one that a call has written, so none of those beside is left. --/
theorem memory_doubles_host (hempty : host.entries = []) (hlimits : host.limits = .unbounded)
    (htokens : ∀ k, IsToken (names k)) (hproper : ∀ c ∈ calls, c.Proper) (hfresh : host.FreshNames names calls)
    (hcall : done ++ [call] <+: calls) :
    let onHost := (callsNaming names).fileSystem
    let inMemory := MemTree.fileSystem.perform call (MemTree.fileSystem.after done .empty)
    let there := onHost.perform call (onHost.after done host)
    onHost.Follows HostTree.view (onHost.after done host) call ∧
      inMemory.1.toOption = there.1.toOption ∧ inMemory.2.view = there.2.view ∧
      (∀ c, inMemory.2.places c ≠ none → ∃ place, c = rooted place) ∧
      ∀ place data mode, there.2.get? place = some (.file data mode) → .write place data mode ∈ done ++ [call] := by
  intro onHost inMemory there
  have halike := alike_after (alike_start hempty hlimits) htokens hproper hfresh ((List.prefix_append _ _).trans hcall)
  have hproper' : call.Proper := hproper call (hcall.subset (by simp))
  obtain ⟨hanswer, hnext⟩ := halike.step htokens hproper' (hfresh done call hcall)
  obtain ⟨hfollows, -⟩ := HostTree.follows_call halike.sound hproper' htokens (hfresh done call hcall)
  refine ⟨hfollows, hanswer, hnext.same, hnext.rooted.below, fun place data mode hfile => ?_⟩
  refine written_of_file hempty hlimits htokens hproper hfresh hcall ?_
  rw [FileSystem.after_concat]
  exact HostTree.view_eq_file.mpr hfile

/-- A file stands in the way of a directory, and a directory in the way of a file. --/
theorem memory_doubles_host_blocked :
    let calls : List PlaceCall := [.write ["work", "u"] ⟨#[7]⟩ ⟨0o640⟩, .makeDirs ["work", "u", "x"] ⟨0o700⟩,
      .write ["work"] .empty ⟨0o600⟩, .read ["work", "u"]]
    let host : HostTree := { HostTree.empty with limits := .unbounded }
    let onHost := (callsNaming HostTree.counted).fileSystem
    (∀ c ∈ calls, c.Proper) ∧ host.FreshNames HostTree.counted calls ∧
      (onHost.after calls host).entries = [(["work", "u"], .file ⟨#[7]⟩ ⟨0o640⟩), (["work"], .dir ⟨0o700⟩)] ∧
      (MemTree.fileSystem.after calls .empty).view = (onHost.after calls host).view := by
  intro calls host onHost
  have hwork : HostTree.IsEntryName "work" := ⟨⟨by decide, by decide, by decide, by decide⟩, by decide⟩
  have hu : HostTree.IsEntryName "u" := ⟨⟨by decide, by decide, by decide, by decide⟩, by decide⟩
  have hx : HostTree.IsEntryName "x" := ⟨⟨by decide, by decide, by decide, by decide⟩, by decide⟩
  have hproper : ∀ c ∈ calls, c.Proper := by
    simp only [calls, List.forall_mem_cons]
    refine ⟨⟨nofun, ?_, ?_⟩, ⟨nofun, ?_, ?_⟩, ⟨nofun, ?_, ?_⟩, ⟨nofun, ?_, ?_⟩, nofun⟩ <;>
      simp [PlaceCall.place, PlaceCall.mode?, hwork, hu, hx]
  have hfresh : host.FreshNames HostTree.counted calls := by
    refine freshNames_cons ?_ (freshNames_cons trivial (freshNames_cons ?_ (freshNames_cons trivial ?_)))
    · rintro name ⟨⟩
      decide +kernel
    · rintro name ⟨⟩
      decide +kernel
    · rintro done c hpre
      simp at hpre
  have hcall : [.write ["work", "u"] ⟨#[7]⟩ ⟨0o640⟩, .makeDirs ["work", "u", "x"] ⟨0o700⟩,
      .write ["work"] .empty ⟨0o600⟩] ++ [.read ["work", "u"]] <+: calls := List.prefix_refl calls
  obtain ⟨-, -, hsame, -⟩ := memory_doubles_host rfl rfl HostTree.isToken_counted hproper hfresh hcall
  exact ⟨hproper, hfresh, by decide +kernel, hsame⟩

end AnsibleStaging
