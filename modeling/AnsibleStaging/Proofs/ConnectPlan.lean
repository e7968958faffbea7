import AnsibleStaging.Connect.Connector
import AnsibleStaging.Proofs.Planning

/-! The plan of a connect: its steps in order, each with the calls that it makes. What a plan cannot know beforehand is
    what the collaborators supply. Given that, every call is settled, and every run of `stage` keeps to such a plan:
    it goes through all steps, or it ends in one of them. -/

namespace AnsibleStaging
open Script

abbrev Record := List (Exchange calls)

inductive Step where
  | directory
  | usage
  | config
  | credentials
  | gitCredentials
  | content
  | playbook
  | requirements
  | tools
  | runner
  | galaxy
deriving DecidableEq

namespace Step

/-- Before every step but one it is looked whether the caller has cancelled. --/
def isGuarded : Step → Bool
  | tools => false
  | _ => true

/-- The names of the failures that put a step to blame. --/
def kinds : Step → List String
  | directory => ["MkdirFailed"]
  | usage => ["TrackUsageFailed"]
  | config => ["GetConfigFailed"]
  | credentials => ["ExtractionFailed", "WriteCredentialsFailed"]
  | gitCredentials => ["WriteGitCredentialsFailed"]
  | content => ["FetchPlaybookFailed"]
  | playbook => ["WritePlaybookFailed"]
  | requirements => ["WriteRequirementsFailed"]
  | tools => []
  | runner => ["InitFailed"]
  | galaxy => ["GalaxyInstallFailed"]

/-- The look at the caller that lets a step begin. --/
def checks (s : Step) : Record := if s.isGuarded then [⟨.cancelled, some false⟩] else []

/-- How a run ends in a step with the calls `xs`: the caller has cancelled before it, or a part of it is done. --/
inductive Breaks (s : Step) (xs : Record) : Record → Option ConnectError → Prop
  | cancelled (hs : s.isGuarded = true) : Breaks s xs [⟨.cancelled, some true⟩] (some .cancelled)
  | unanswered (hs : s.isGuarded = true) : Breaks s xs [⟨.cancelled, none⟩] none
  | within {made : Record} {e : Option ConnectError} (hm : asked made <+: asked xs)
      (he : ∀ e' ∈ e, e'.kindName ∈ s.kinds) : Breaks s xs (s.checks ++ made) e

end Step

/-- Steps with the calls of each. --/
abbrev Plan := List (Step × Record)

namespace Plan

def record (p : Plan) : Record := p.flatMap (·.2)

/-- The calls of all steps, with the looks at the caller between them. --/
def log (p : Plan) : Record := p.flatMap fun s => s.1.checks ++ s.2

theorem record_cons (s : Step × Record) (p : Plan) : record (s :: p) = s.2 ++ record p := rfl

theorem record_append (p q : Plan) : record (p ++ q) = record p ++ record q := List.flatMap_append

theorem log_cons (s : Step × Record) (p : Plan) : log (s :: p) = s.1.checks ++ s.2 ++ log p := rfl

theorem log_append (p q : Plan) : log (p ++ q) = log p ++ log q := List.flatMap_append

/-- A run ends in one step of the plan, after all steps before it. --/
def Breaks (p : Plan) (l : Record) (e : Option ConnectError) : Prop :=
  ∃ before step xs after made, p = before ++ (step, xs) :: after ∧ l = log before ++ made ∧ step.Breaks xs made e

end Plan

/-- Plans of a connect are made of steps. --/
def bySteps : Planning calls ConnectError (Step × Record) where
  whole := Plan.log
  Breaks := Plan.Breaks
  whole_nil := rfl
  whole_append := Plan.log_append
  breaks_append := by
    rintro p q l e ⟨before, step, xs, after, made, rfl, rfl, hb⟩
    exact ⟨before, step, xs, after ++ q, made, by simp, rfl, hb⟩
  breaks_after := by
    rintro p q l e ⟨before, step, xs, after, made, rfl, rfl, hb⟩
    exact ⟨p ++ before, step, xs, after, made, by simp, by rw [Plan.log_append, List.append_assoc], hb⟩

/-! ### What is supplied -/

structure Supply where
  config : ProviderConfig
  /-- The entries with their bytes. --/
  resolved : List (CredentialEntry × ByteArray)
  /-- What the lookup of the token for git answers. --/
  token : ByteArray
  /-- What git's credential store is to read. --/
  gitContent : ByteArray
  /-- What the locator of the playbook names. --/
  fetched : ByteArray
  runner : Runner

/-- The lookup in which a source finds `data`; some sources make no call. --/
def lookup (source : CredentialsSource) (selectors : Selectors) (data : ByteArray) : Record :=
  match source with
  | .filesystem =>
    match nonEmpty? selectors.path with
    | some path => [⟨.read ⟨path⟩, some (.ok data)⟩]
    | none => []
  | .secret =>
    match selectors.secret with
    | some key => [⟨.secret key, some (.ok data)⟩]
    | none => []
  | _ => []

/-- The name under which an entry is written, if it names a file. --/
def entryFile (e : CredentialEntry) : String := (Staging.safeFileName e.filename).getD ""

def writing (p : Path) (data : ByteArray) : Exchange calls := ⟨.write p data .privateFile, some (.ok ())⟩

/-- The calls for one entry with its bytes. --/
def entryRecord (dir : Path) (x : CredentialEntry × ByteArray) : Record :=
  lookup x.1.source x.1.selectors x.2 ++ [writing (dir.join (entryFile x.1)) x.2]

/-- The bytes of the last entry that git's credential store reads, or `latest` if there is none. --/
def latestGit (latest : Option ByteArray) : List (CredentialEntry × ByteArray) → Option ByteArray
  | [] => latest
  | x :: rest => latestGit (if entryFile x.1 = gitCredentialsName then some x.2 else latest) rest

/-- The lookup of the token for git, which is made if no entry stands in for it. --/
def tokenLookup (latest : Option ByteArray) (git : Option GitConnection) (token : ByteArray) : Record :=
  match latest, git with
  | none, some git => lookup git.tokenSource git.token token
  | _, _ => []

/-- The bytes of the playbook: those of the run, or those that were fetched. --/
def playbookBytes (run : AnsibleRun) (fetched : ByteArray) : ByteArray :=
  match run.source with
  | .inline => run.parameters.playbook.toUTF8
  | .remote => fetched

namespace Connector

def runDir (c : Connector) (run : AnsibleRun) : Path := c.staging.base.join run.uid.text

/-- The directory from which git's credential store reads. --/
def gitDir (c : Connector) (run : AnsibleRun) : Path := c.gitStaging.base.join run.uid.text

/-- The steps for the playbook. Only a remote playbook needs git's credential store. --/
def playbookPlan (c : Connector) (run : AnsibleRun) (dir : Path) (entry : Option ByteArray) (git : Option GitConnection)
    (token gitContent fetched : ByteArray) : Plan :=
  match run.source with
  | .inline =>
    [(.content, []), (.playbook, [writing (dir.join playbookName) run.parameters.playbook.toUTF8])]
  | .remote =>
    [(.gitCredentials, tokenLookup entry git token ++ [writing ((c.gitDir run).join gitCredentialsName) gitContent]),
      (.content, [⟨.fetch run.parameters.playbook, some (.ok fetched)⟩]),
      (.playbook, [writing (dir.join playbookName) fetched])]

def requirementsPlan (dir : Path) (config : ProviderConfig) : Plan :=
  match config.settings.requirements with
  | none => []
  | some text => [(.requirements, [writing (dir.join requirementsName) text.toUTF8])]

/-- The steps up to the one in which the configuration is asked for. --/
def openingPlan (c : Connector) (run : AnsibleRun) (config : ProviderConfig) : Plan :=
  [(.directory, [⟨.makeDirs (c.runDir run) .privateDirectory, some (.ok ())⟩]),
    (.usage, [⟨.track (.run run), some (.ok ())⟩]),
    (.config, [⟨.providerConfig (run.providerConfig.getD ""), some (.ok config)⟩])]

/-- The steps up to the one in which the entries of the configuration are written. --/
def entriesPlan (c : Connector) (run : AnsibleRun) (config : ProviderConfig)
    (resolved : List (CredentialEntry × ByteArray)) : Plan :=
  c.openingPlan run config ++ [(.credentials, resolved.flatMap (entryRecord (c.runDir run)))]

def filesPlan (c : Connector) (run : AnsibleRun) (v : Supply) : Plan :=
  [(.directory, [⟨.makeDirs (c.runDir run) .privateDirectory, some (.ok ())⟩]),
    (.usage, [⟨.track (.run run), some (.ok ())⟩]),
    (.config, [⟨.providerConfig (run.providerConfig.getD ""), some (.ok v.config)⟩]),
    (.credentials, v.resolved.flatMap (entryRecord (c.runDir run)))] ++
  c.playbookPlan run (c.runDir run) (latestGit none v.resolved) v.config.settings.git v.token v.gitContent v.fetched ++
  requirementsPlan (c.runDir run) v.config

def runnerPlan (dir : Path) (run : AnsibleRun) (config : ProviderConfig) (runner : Runner) : Plan :=
  [(.tools, [⟨.tools dir, some ()⟩]), (.runner, [⟨.initRunner dir run config, some (.ok runner)⟩]),
    (.galaxy, [⟨.installGalaxy dir config, some (.ok ())⟩])]

def plan (c : Connector) (run : AnsibleRun) (v : Supply) : Plan :=
  c.filesPlan run v ++ runnerPlan (c.runDir run) run v.config v.runner

/-! ### The calls of the steps -/

theorem playbookPlan_record (c : Connector) (run : AnsibleRun) (dir : Path) (entry : Option ByteArray)
    (git : Option GitConnection) (token gitContent fetched : ByteArray) :
    (c.playbookPlan run dir entry git token gitContent fetched).record =
      (match run.source with
        | .inline => []
        | .remote => tokenLookup entry git token ++ [writing ((c.gitDir run).join gitCredentialsName) gitContent] ++
            [⟨.fetch run.parameters.playbook, some (.ok fetched)⟩]) ++
      [writing (dir.join playbookName) (playbookBytes run fetched)] := by
  unfold playbookPlan playbookBytes
  cases run.source <;> simp [Plan.record]

theorem requirementsPlan_record (dir : Path) (config : ProviderConfig) :
    (requirementsPlan dir config).record =
      config.settings.requirements.toList.map fun text => writing (dir.join requirementsName) text.toUTF8 := by
  unfold requirementsPlan
  cases config.settings.requirements <;> rfl

theorem filesPlan_record (c : Connector) (run : AnsibleRun) (v : Supply) : (c.filesPlan run v).record =
    [⟨.makeDirs (c.runDir run) .privateDirectory, some (.ok ())⟩, ⟨.track (.run run), some (.ok ())⟩,
      ⟨.providerConfig (run.providerConfig.getD ""), some (.ok v.config)⟩] ++
    v.resolved.flatMap (entryRecord (c.runDir run)) ++
    (c.playbookPlan run (c.runDir run) (latestGit none v.resolved) v.config.settings.git v.token v.gitContent
      v.fetched).record ++ (requirementsPlan (c.runDir run) v.config).record := by
  unfold filesPlan
  rw [Plan.record_append, Plan.record_append]
  simp [Plan.record]

theorem runnerPlan_record (dir : Path) (run : AnsibleRun) (config : ProviderConfig) (runner : Runner) :
    (runnerPlan dir run config runner).record =
      [⟨.tools dir, some ()⟩, ⟨.initRunner dir run config, some (.ok runner)⟩, ⟨.installGalaxy dir config, some (.ok ())⟩] :=
  rfl

end Connector

/-- The bytes of an entry are those that its source gives, and the entry names a file. --/
structure Resolved (env : Environment) (x : CredentialEntry × ByteArray) : Prop where
  found : (extractCredentials env x.1.source x.1.selectors).Follows (lookup x.1.source x.1.selectors x.2) (some (.ok x.2))
  named : Staging.safeFileName x.1.filename = some (entryFile x.1)

/-- What is supplied is for the entries of the configuration. --/
def Supply.Fits (v : Supply) : Prop := v.resolved.map Prod.fst = v.config.settings.credentials

/-- All that is supplied was found. --/
structure Supply.Found (v : Supply) (c : Connector) (run : AnsibleRun) : Prop where
  uid_safe : run.uid.isPathSafe = true
  entries : ∀ x ∈ v.resolved, Resolved c.environment x
  git : run.source = .remote → (gitCredentials c.environment (latestGit none v.resolved) v.config.settings.git).Follows
    (tokenLookup (latestGit none v.resolved) v.config.settings.git v.token) (some (.ok v.gitContent))

end AnsibleStaging
