import WideColumn.Settings.Basic

/-!
# Layers of settings

Flags lie over the config file, each setting over the same setting of the file. So a run does not
see what the file says under a flag that is given, neither in its settings nor in its errors, and it
does not see either which of the two a value comes from. What a run connects with has to be
complete, and is looked through in a fixed order.

The argument is one for all settings: of two layers only `ConnectionConfig.orElse` is used, which
goes setting by setting, and one lemma each says what it does not see of an optional value
(`orElse_congr`, `Moves.orElse`) and of a list (`Moves.orElseList`).

Main definitions: `ConfigFile.AgreesUnder`, `ConnectionConfig.MovesToFlags`,
`ConnectionConfig.Lacks`.
Main result: `Settings.flags_shadow`.
-/

namespace WideColumn

open Text

/-! ## What lies under a flag -/

/-- The two files say the same wherever the flags leave something to the file. -/
structure ConfigFile.AgreesUnder (flags : ConnectionConfig) (f g : ConfigFile) : Prop where
  keyspace : flags.keyspace = none → f.connection.keyspace = g.connection.keyspace
  contactPoints :
    flags.contactPoints = [] → f.connection.contactPoints = g.connection.contactPoints
  port : flags.port = none → f.connection.port = g.connection.port
  localDataCenter :
    flags.localDataCenter = none → f.connection.localDataCenter = g.connection.localDataCenter
  username : flags.username = none → f.connection.username = g.connection.username
  password : flags.password = none → f.connection.password = g.connection.password
  outDir : f.outDir = g.outDir
  formatter : f.formatter = g.formatter
  connectTimeout : f.connectTimeout = g.connectTimeout
  requestTimeout : f.requestTimeout = g.requestTimeout

theorem orElse_congr {α : Type} {flag x y : Option α} (h : flag = none → x = y) :
    (flag <|> x) = (flag <|> y) := by
  cases flag with
  | none => rw [h rfl]
  | some value => rfl

theorem ConfigFile.AgreesUnder.orElse {flags : ConnectionConfig} {f g : ConfigFile}
    (h : AgreesUnder flags f g) : flags.orElse f.connection = flags.orElse g.connection := by
  have hpoints : (if flags.contactPoints.isEmpty then f.connection.contactPoints
        else flags.contactPoints) =
      if flags.contactPoints.isEmpty then g.connection.contactPoints else flags.contactPoints := by
    split
    · rename_i hempty
      exact h.contactPoints (List.isEmpty_iff.mp hempty)
    · rfl
  unfold ConnectionConfig.orElse
  rw [orElse_congr h.keyspace, hpoints, orElse_congr h.port, orElse_congr h.localDataCenter,
    orElse_congr h.username, orElse_congr h.password]

/-! ## Moving values up -/

/-- A setting stays where it is, or it moves from the file to the flags, which leave it unset. -/
inductive Moves {α : Type} (unset : α) : (flag file flag' file' : α) → Prop
  | stay (flag file : α) : Moves unset flag file flag file
  | move (value : α) : Moves unset unset value value unset

theorem Moves.orElse {α : Type} {flag file flag' file' : Option α}
    (h : Moves none flag file flag' file') : (flag' <|> file') = (flag <|> file) := by
  cases h with
  | stay => rfl
  | move => cases file <;> rfl

theorem Moves.orElseList {α : Type} {flag file flag' file' : List α}
    (h : Moves [] flag file flag' file') :
    (if flag'.isEmpty then file' else flag') = if flag.isEmpty then file else flag := by
  cases h with
  | stay => rfl
  | move => cases file <;> rfl

/-- Some settings move from the file to the flags, and all others stay where they are. -/
structure ConnectionConfig.MovesToFlags (flags file flags' file' : ConnectionConfig) : Prop where
  keyspace : Moves none flags.keyspace file.keyspace flags'.keyspace file'.keyspace
  contactPoints :
    Moves [] flags.contactPoints file.contactPoints flags'.contactPoints file'.contactPoints
  port : Moves none flags.port file.port flags'.port file'.port
  localDataCenter :
    Moves none flags.localDataCenter file.localDataCenter flags'.localDataCenter
      file'.localDataCenter
  username : Moves none flags.username file.username flags'.username file'.username
  password : Moves none flags.password file.password flags'.password file'.password

theorem ConnectionConfig.MovesToFlags.orElse {flags file flags' file' : ConnectionConfig}
    (h : MovesToFlags flags file flags' file') : flags'.orElse file' = flags.orElse file := by
  unfold ConnectionConfig.orElse
  rw [h.keyspace.orElse, h.contactPoints.orElseList, h.port.orElse, h.localDataCenter.orElse,
    h.username.orElse, h.password.orElse]

/-! ## What a connection needs -/

namespace ConnectionConfig

/-- Some contact point is not blank. -/
def HasContactPoint (c : ConnectionConfig) : Prop :=
  ∃ point ∈ c.contactPoints, allBlank point.toList = false

/-- A data center is given, and it is not blank. -/
def HasDataCenter (c : ConnectionConfig) : Prop :=
  ∃ name, c.localDataCenter = some name ∧ allBlank name.toList = false

/-- The username and the password are both given, or none of them is. -/
def HasWholeCredentials (c : ConnectionConfig) : Prop := c.username.isSome = c.password.isSome

/-- The three needs of a connection are met. -/
structure IsComplete (c : ConnectionConfig) : Prop where
  contactPoint : c.HasContactPoint
  dataCenter : c.HasDataCenter
  credentials : c.HasWholeCredentials

/-- The error is that of the first of the three needs that is not met. -/
inductive Lacks (c : ConnectionConfig) : SettingsError → Prop
  | contactPoint : ¬ c.HasContactPoint → Lacks c .missingContactPoints
  | dataCenter : c.HasContactPoint → ¬ c.HasDataCenter → Lacks c .missingDataCenter
  | credentials :
      c.HasContactPoint → c.HasDataCenter → ¬ c.HasWholeCredentials → Lacks c .partialCredentials

namespace Lacks

variable {c : ConnectionConfig} {e e' : SettingsError}

theorem not_isComplete (h : c.Lacks e) : ¬ c.IsComplete := by
  intro hc
  cases h with
  | contactPoint hpoint => exact hpoint hc.contactPoint
  | dataCenter _ hcenter => exact hcenter hc.dataCenter
  | credentials _ _ hwhole => exact hwhole hc.credentials

/-- Only one need is the first that is not met. -/
theorem unique (h : c.Lacks e) (h' : c.Lacks e') : e = e' := by
  cases h <;> cases h' <;> first | rfl | contradiction

end Lacks

end ConnectionConfig

namespace Settings

theorem unlessBlank_eq_some {text : Option String} {s : String} (h : unlessBlank text = some s) :
    text = some s ∧ allBlank s.toList = false := by
  simpa [unlessBlank] using h

theorem unlessBlank_of_hasDataCenter {c : ConnectionConfig} (h : c.HasDataCenter) :
    unlessBlank c.localDataCenter ≠ none := by
  obtain ⟨name, hname, hblank⟩ := h
  simp [unlessBlank, hname, hblank]

/-- The settings say how to reach the cluster, or else what is missing first. -/
theorem connectOptions_cases (settings : Settings) :
    (∃ options, settings.connectOptions = .ok options ∧ settings.connection.IsComplete) ∨
      ∃ e, settings.connectOptions = .error e ∧ settings.connection.Lacks e := by
  unfold connectOptions
  dsimp only
  split
  · rename_i hblank
    have hpoint : ¬ settings.connection.HasContactPoint := by
      rintro ⟨point, hmem, hfilled⟩
      have hall := List.all_eq_true.mp hblank point hmem
      simp [hfilled] at hall
    exact .inr ⟨_, rfl, .contactPoint hpoint⟩
  · rename_i hblank
    have hpoint : settings.connection.HasContactPoint := by
      simpa [ConnectionConfig.HasContactPoint] using hblank
    split
    · rename_i hnone
      have hcenter : ¬ settings.connection.HasDataCenter :=
        fun hcenter => unlessBlank_of_hasDataCenter hcenter hnone
      exact .inr ⟨_, rfl, .dataCenter hpoint hcenter⟩
    · rename_i name hname
      have hcenter : settings.connection.HasDataCenter := ⟨name, unlessBlank_eq_some hname⟩
      split
      · rename_i username password husername hpassword
        exact .inl ⟨_, rfl, hpoint, hcenter, by
          simp [ConnectionConfig.HasWholeCredentials, husername, hpassword]⟩
      · rename_i husername hpassword
        exact .inl ⟨_, rfl, hpoint, hcenter, by
          simp [ConnectionConfig.HasWholeCredentials, husername, hpassword]⟩
      · rename_i hboth hneither
        refine .inr ⟨_, rfl, .credentials hpoint hcenter fun hwhole => ?_⟩
        unfold ConnectionConfig.HasWholeCredentials at hwhole
        cases husername : settings.connection.username with
        | none =>
          rw [husername] at hwhole
          have hpassword : settings.connection.password.isNone :=
            Option.isSome_eq_false_iff.mp hwhole.symm
          exact hneither husername (Option.isNone_iff_eq_none.mp hpassword)
        | some username =>
          rw [husername] at hwhole
          obtain ⟨password, hpassword⟩ := Option.isSome_iff_exists.mp hwhole.symm
          exact hboth username password husername hpassword

theorem connectOptions_ok_iff (settings : Settings) :
    (∃ options, settings.connectOptions = .ok options) ↔ settings.connection.IsComplete := by
  rcases settings.connectOptions_cases with ⟨options, hok, hcomplete⟩ | ⟨e, herror, hlacks⟩
  · exact ⟨fun _ => hcomplete, fun _ => ⟨options, hok⟩⟩
  · constructor
    · rintro ⟨options, hok⟩
      rw [herror] at hok
      contradiction
    · intro hcomplete
      exact absurd hcomplete hlacks.not_isComplete

theorem connectOptions_error_iff (settings : Settings) (e : SettingsError) :
    settings.connectOptions = .error e ↔ settings.connection.Lacks e := by
  rcases settings.connectOptions_cases with ⟨options, hok, hcomplete⟩ | ⟨e', herror, hlacks⟩
  · rw [hok]
    constructor
    · intro h
      contradiction
    · intro hlacks
      exact absurd hcomplete hlacks.not_isComplete
  · rw [herror, Except.error.injEq]
    constructor
    · rintro rfl
      exact hlacks
    · intro h
      exact hlacks.unique h

/-! ## Two layers -/

theorem connection_of_resolve {flags : ConnectionConfig} {file : ConfigFile}
    {outDir : Option String} {settings : Settings} (h : resolve flags file outDir = .ok settings) :
    settings.connection = flags.orElse file.connection := by
  unfold resolve at h
  dsimp only at h
  split at h
  · contradiction
  · obtain rfl := Except.ok.inj h
    rfl

/-- Flags shadow the config file, setting by setting. What the file says under a flag that is given
makes no difference, whether a run succeeds or fails, and neither does it make one which of the two
says what only one of them says. Settings tell how to reach the cluster just if the flags and the
file together meet all three needs, and otherwise they tell the first one that is not met. -/
theorem flags_shadow (flags : ConnectionConfig) (outDir : Option String) :
    (∀ f g : ConfigFile, f.AgreesUnder flags g →
      resolve flags f outDir = resolve flags g outDir) ∧
    (∀ (file : ConfigFile) (flags' rest : ConnectionConfig),
      flags.MovesToFlags file.connection flags' rest →
      resolve flags' { file with connection := rest } outDir = resolve flags file outDir) ∧
    ∀ (file : ConfigFile) (settings : Settings), resolve flags file outDir = .ok settings →
      let effective : ConnectionConfig :=
        { keyspace := flags.keyspace <|> file.connection.keyspace
          contactPoints :=
            if flags.contactPoints = [] then file.connection.contactPoints else flags.contactPoints
          port := flags.port <|> file.connection.port
          localDataCenter := flags.localDataCenter <|> file.connection.localDataCenter
          username := flags.username <|> file.connection.username
          password := flags.password <|> file.connection.password }
      ((∃ options, settings.connectOptions = .ok options) ↔ effective.IsComplete) ∧
      ∀ e, settings.connectOptions = .error e ↔ effective.Lacks e := by
  refine ⟨fun f g h => ?_, fun file flags' rest h => ?_, fun file settings h => ?_⟩
  · unfold resolve
    rw [h.orElse, h.outDir, h.formatter, h.connectTimeout, h.requestTimeout]
  · unfold resolve
    rw [h.orElse]
  · intro effective
    have heffective : settings.connection = effective := by
      rw [connection_of_resolve h]
      simp [ConnectionConfig.orElse, effective]
    exact heffective ▸ ⟨settings.connectOptions_ok_iff, settings.connectOptions_error_iff⟩

/-- Flags with half of the credentials. -/
def chatFlags : ConnectionConfig where
  keyspace := some "chat"
  contactPoints := ["db-1"]
  username := some "gen"

/-- A file with the other half, and the given keyspace under that of the flags. -/
def chatFile (keyspace : Option String) : ConfigFile where
  connection := { keyspace, localDataCenter := some "eu", password := some "secret" }
  formatter := some "true"

/-- The keyspace of the file lies under a flag, and the password may stand in either of the two. -/
theorem flags_shadow_chat :
    ((chatFile none).AgreesUnder chatFlags (chatFile (some "billing")) ∧
      resolve chatFlags (chatFile none) none = resolve chatFlags (chatFile (some "billing")) none) ∧
    (chatFlags.MovesToFlags (chatFile none).connection
        { chatFlags with password := some "secret" }
        { (chatFile none).connection with password := none } ∧
      resolve { chatFlags with password := some "secret" }
          { chatFile none with
            connection := { (chatFile none).connection with password := none } } none =
        resolve chatFlags (chatFile none) none) ∧
    ∃ settings, resolve chatFlags (chatFile none) none = .ok settings ∧
      ∃ options, settings.connectOptions = .ok options := by
  obtain ⟨hshadow, hmove, hneeds⟩ := flags_shadow chatFlags none
  have hagrees : (chatFile none).AgreesUnder chatFlags (chatFile (some "billing")) := by
    constructor <;> simp [chatFlags, chatFile]
  have hmoves : chatFlags.MovesToFlags (chatFile none).connection
      { chatFlags with password := some "secret" }
      { (chatFile none).connection with password := none } :=
    ⟨.stay _ _, .stay _ _, .stay _ _, .stay _ _, .stay _ _, .move _⟩
  refine ⟨⟨hagrees, hshadow _ _ hagrees⟩, ⟨hmoves, hmove _ _ _ hmoves⟩, _, rfl, ?_⟩
  exact (hneeds (chatFile none) _ rfl).1.mpr
    ⟨⟨"db-1", by decide, by decide⟩, ⟨"eu", rfl, by decide⟩, rfl⟩

end Settings

end WideColumn
