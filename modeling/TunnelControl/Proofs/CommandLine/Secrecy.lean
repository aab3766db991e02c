/-
  TunnelControl.Proofs.CommandLine.Secrecy
  ────────────────────────────────────────
  **NOTHING THAT IS PRINTED DEPENDS ON A CREDENTIAL.**

  Two settings that differ in their credentials alone cannot be told apart by
  what is printed without being asked to reveal them.  All that may show is
  whether a credential is empty and whether it is blank, since that decides
  which other settings are asked for.

    • `maskedAs`, `sorted_masked`         — hiding and ordering members,
    • `Settings.Alike`, `ConnectionConfig.Alike` — what may differ,
    • `Alike.problems`, `Alike.maskedBody` — through the checks and the body,
    • `Alike.validated`                   — both are rejected alike, or neither,
    • `Serves`, `Untold`, `credentials_are_never_told`.
-/
import TunnelControl.Engine.Call
import TunnelControl.Proofs.CommandLine.Runs

namespace TunnelControl

/-! ## §1. Hiding members. -/

namespace Entries

variable {α : Type} (g : String → α → α)

/-- The map with every value changed in a way that its name decides. -/
def mapValues (m : Entries α) : Entries α := m.map fun e => (e.1, g e.1 e.2)

theorem get?_mapValues (name : String) (m : Entries α) :
    get? name (mapValues g m) = (get? name m).map (g name) := by
  induction m with
  | nil => rfl
  | cons e m ih =>
      obtain ⟨k, a⟩ := e
      by_cases same : k = name
      · subst same
        simp [mapValues, get?]
      · simpa [mapValues, get?, same] using ih

theorem insert_mapValues (name : String) (a : α) (m : Entries α) :
    insert name (g name a) (mapValues g m) = mapValues g (insert name a m) := by
  induction m with
  | nil => rfl
  | cons e m ih =>
      obtain ⟨k, b⟩ := e
      show insert name (g name a) ((k, g k b) :: mapValues g m) = _
      unfold insert
      split
      next same =>
        subst same
        rfl
      next =>
        split
        next => rfl
        next => rw [ih]; rfl

end Entries

namespace CommandLine

open Json

/-- The value of a member as it is printed when credentials are hidden. -/
def maskedAs (name : String) (v : Value) : Value :=
  if (credentials.map Setting.wireName).contains name then maskedValue v else v

theorem masked_record (ms : List (String × Value)) :
    masked (.record ms) = .record (Entries.mapValues maskedAs ms) := by
  unfold masked Entries.mapValues
  refine congrArg Value.record (List.map_congr_left fun m _ => ?_)
  unfold maskedAs
  split
  next => rfl
  next => rfl

theorem sorted_maskedAs (name : String) (v : Value) :
    (maskedAs name v).sorted = maskedAs name v.sorted := by
  unfold maskedAs
  split
  next => cases v <;> simp only [maskedValue, Value.sorted]
  next => rfl

theorem sortedMembers_mapValues (ms : List (String × Value)) :
    sortedMembers (Entries.mapValues maskedAs ms) = Entries.mapValues maskedAs (sortedMembers ms) := by
  induction ms with
  | nil => rfl
  | cons m ms ih =>
      obtain ⟨k, v⟩ := m
      show sortedMembers ((k, maskedAs k v) :: Entries.mapValues maskedAs ms) = _
      rw [sortedMembers, sortedMembers, ih, sorted_maskedAs]
      simp only [Entries.get?_mapValues, Option.isSome_map]
      -- whether a name comes again further on is the same for hidden values
      split
      next => rfl
      next => exact Entries.insert_mapValues maskedAs k v.sorted _

/-- **Members may be put in order before or after they are hidden.** -/
theorem sorted_masked (v : Value) : (masked v).sorted = masked v.sorted := by
  cases v with
  | record ms =>
      rw [masked_record, Value.sorted, Value.sorted, masked_record, sortedMembers_mapValues]
  | _ => rfl

/-- Values that are the same when hidden are printed alike. -/
theorem printed_of_masked {v w : Value} (same : masked v = masked w) :
    printed false v = printed false w := by
  have sorted : masked v.sorted = masked w.sorted := by rw [← sorted_masked, same, sorted_masked]
  show Output.mk ((masked v.sorted).pretty ++ "\n") "" = Output.mk ((masked w.sorted).pretty ++ "\n") ""
  rw [sorted]

end CommandLine

/-! ## §2. What may differ. -/

/-- Two settings agree but for their credentials, of which they agree whether
each is empty and whether it is blank. -/
structure Settings.Alike (s t : Settings) : Prop where
  others : { s with secret := "", userToken := "" } = { t with secret := "", userToken := "" }
  secretEmpty : s.secret = "" ↔ t.secret = ""
  secretBlank : Text.isBlankText s.secret = Text.isBlankText t.secret
  tokenEmpty : s.userToken = "" ↔ t.userToken = ""
  tokenBlank : Text.isBlankText s.userToken = Text.isBlankText t.userToken

/-- Two configs agree but for their credentials, of which they agree what the
checks ask for. -/
structure ConnectionConfig.Alike (c d : ConnectionConfig) : Prop where
  others : { c with secret := "", userToken := none } = { d with secret := "", userToken := none }
  secretEmpty : c.secret = "" ↔ d.secret = ""
  secretBlank : Text.isBlankText c.secret = Text.isBlankText d.secret
  token : c.token.isSome = d.token.isSome

namespace Settings

variable {s t : Settings}

theorem masked_eq {a b : String} (same : a = "" ↔ b = "") : masked a = masked b := by
  unfold masked
  by_cases empty : a = ""
  · rw [if_pos empty, if_pos (same.mp empty)]
  · rw [if_neg empty, if_neg (mt same.mpr empty)]

theorem Alike.eq (alike : s.Alike t) :
    t = { s with secret := t.secret, userToken := t.userToken } :=
  congrArg (fun x : Settings => { x with secret := t.secret, userToken := t.userToken })
    alike.others.symm

/-- **The debug text does not tell the credentials.** -/
theorem Alike.debugText (alike : s.Alike t) : s.debugText = t.debugText := by
  rw [alike.eq]
  unfold Settings.debugText
  rw [masked_eq alike.secretEmpty, masked_eq alike.tokenEmpty]

/-- **Nor does the record when credentials are hidden.** -/
theorem Alike.masked (alike : s.Alike t) :
    CommandLine.masked (codec.toValue s) = CommandLine.masked (codec.toValue t) := by
  have entry (f : Setting) : CommandLine.maskedAs f.wireName (s.entry f)
      = CommandLine.maskedAs f.wireName (t.entry f) := by
    rw [alike.eq]
    cases f with
    | secret => exact congrArg Json.Value.text (masked_eq alike.secretEmpty)
    | userToken => exact congrArg Json.Value.text (masked_eq alike.tokenEmpty)
    | _ => rfl
  rw [toValue_eq, toValue_eq, CommandLine.masked_record, CommandLine.masked_record]
  unfold Entries.mapValues
  rw [List.map_map, List.map_map]
  refine congrArg Json.Value.record (List.map_congr_left fun f _ => ?_)
  exact congrArg (f.wireName, ·) (entry f)

/-- An MTU that cannot be used is replaced in both. -/
theorem Alike.repaired (alike : s.Alike t) :
    (SettingsStore.repaired s).Alike (SettingsStore.repaired t) := by
  have mtu : t.mtu = s.mtu := by rw [alike.eq]
  unfold SettingsStore.repaired
  rw [mtu]
  split
  next => exact alike
  next =>
    exact { alike with
      others := congrArg (fun x : Settings => { x with mtu := default.mtu }) alike.others }

end Settings

/-! ## §3. Through the checks. -/

namespace ConnectionConfig

variable {c d : ConnectionConfig}

theorem Alike.eq (alike : c.Alike d) :
    d = { c with secret := d.secret, userToken := d.userToken } :=
  congrArg (fun x : ConnectionConfig => { x with secret := d.secret, userToken := d.userToken })
    alike.others.symm

/-- **The same is wrong with both.** -/
theorem Alike.problems (alike : c.Alike d) : c.problems = d.problems := by
  obtain ⟨secret, token, same⟩ : ∃ secret token, d = { c with secret := secret, userToken := token } :=
    ⟨_, _, alike.eq⟩
  have blank := alike.secretBlank
  have isSome := alike.token
  subst same
  -- the checks ask whether the secret is blank and whether there is a token
  unfold ConnectionConfig.problems
  rw [blank, isSome]

/-- What is written of a token, if there is one. -/
def tokenMember (token : Option String) : List (String × Json.Value) :=
  (token.map fun t => ("userToken", .text t)).toList

/-- What is written of a body behind its credentials. -/
def membersBehind (b : Wire.ConnectBody) : List (String × Json.Value) :=
  [("orgId", .text b.orgId), ("mtu", .integer b.mtu.toNat), ("dns", .text b.dns),
    ("upstreamDNS", .sequence (b.upstreamDns.map .text)), ("holepunch", .boolean b.holepunch),
    ("tunnelDNS", .boolean b.tunnelDns), ("overrideDNS", .boolean b.overrideDns),
    ("pingInterval", .text b.pingInterval), ("pingTimeout", .text b.pingTimeout)]

theorem toValue_body (b : Wire.ConnectBody) : Wire.ConnectBody.codec.toValue b
    = .record (("endpoint", .text b.endpoint) :: ("id", .text b.id) :: ("secret", .text b.secret)
      :: (tokenMember b.userToken ++ membersBehind b)) := by
  obtain ⟨_, _, _, token, _, _, _, _, _, _, _, _, _⟩ := b
  cases token with
  | none => rfl
  | some token => rfl

/-- Tokens that are taken from configs are hidden alike, since none is empty. -/
theorem masked_tokenMember (same : c.token.isSome = d.token.isSome) :
    Entries.mapValues CommandLine.maskedAs (tokenMember c.token)
      = Entries.mapValues CommandLine.maskedAs (tokenMember d.token) := by
  cases own : c.token with
  | none =>
      cases other : d.token with
      | none => rfl
      | some token' => simp [own, other] at same
  | some token =>
      cases other : d.token with
      | none => simp [own, other] at same
      | some token' =>
          have hidden : Settings.masked token = Settings.masked token' :=
            Settings.masked_eq (iff_of_false (token_eq_some own).1 (token_eq_some other).1)
          exact congrArg (fun shown => [("userToken", Json.Value.text shown)]) hidden

/-- **Both bodies are the same when credentials are hidden.** -/
theorem Alike.maskedBody (alike : c.Alike d) :
    CommandLine.masked (Wire.ConnectBody.codec.toValue c.body)
      = CommandLine.masked (Wire.ConnectBody.codec.toValue d.body) := by
  have endpoint : d.body.endpoint = c.body.endpoint := by rw [alike.eq]; rfl
  have id : d.body.id = c.body.id := by rw [alike.eq]; rfl
  have behind : membersBehind d.body = membersBehind c.body := by rw [alike.eq]; rfl
  have secret : CommandLine.maskedAs "secret" (.text c.secret)
      = CommandLine.maskedAs "secret" (.text d.secret) :=
    congrArg Json.Value.text (Settings.masked_eq alike.secretEmpty)
  have token := masked_tokenMember alike.token
  rw [toValue_body, toValue_body, CommandLine.masked_record, CommandLine.masked_record, endpoint, id,
    behind]
  unfold Entries.mapValues at token ⊢
  simp only [List.map_cons, List.map_append]
  -- only the secret and the token are left to compare
  show Json.Value.record (_ :: _ :: ("secret", CommandLine.maskedAs "secret" (.text c.secret))
      :: (List.map _ (tokenMember c.token) ++ _)) = _
  rw [secret, token]
  rfl

/-- **Both are rejected for the same problems, or neither is.** -/
theorem Alike.validate (alike : c.Alike d) :
    (∃ r, c.validate = .error r ∧ d.validate = .error r)
      ∨ ∃ v w, c.validate = .ok v ∧ d.validate = .ok w ∧ v.body = c.body ∧ w.body = d.body := by
  unfold ConnectionConfig.validate
  by_cases clean : c.problems = []
  · rw [dif_pos clean, dif_pos (alike.problems ▸ clean)]
    exact .inr ⟨_, _, rfl, rfl, rfl, rfl⟩
  · rw [dif_neg clean, dif_neg (alike.problems ▸ clean), alike.problems]
    exact .inl ⟨_, rfl, rfl⟩

theorem isSome_token {raw : String}
    (own : c.userToken = if Text.isBlankText raw then none else some raw) :
    c.token.isSome = !Text.isBlankText raw := by
  unfold ConnectionConfig.token
  rw [own]
  cases blank : Text.isBlankText raw with
  | true => rfl
  | false => simp [trim_ne_empty blank]

end ConnectionConfig

namespace Settings

variable {s t : Settings}

/-- **Alike settings give the same refusal or alike configs.** -/
theorem Alike.toConfig (alike : s.Alike t) :
    (∃ r, s.toConfig = .error r ∧ t.toConfig = .error r)
      ∨ ∃ c d, s.toConfig = .ok c ∧ t.toConfig = .ok d ∧ c.Alike d := by
  have interval : t.pingInterval = s.pingInterval := by rw [alike.eq]
  have timeout : t.pingTimeout = s.pingTimeout := by rw [alike.eq]
  unfold Settings.toConfig
  rw [interval, timeout]
  -- the times are the same, and nothing else is refused here
  split
  next =>
    refine .inr ⟨_, _, rfl, rfl, ?_, alike.secretEmpty, alike.secretBlank, ?_⟩
    · rw [alike.eq]
    · rw [ConnectionConfig.isSome_token rfl, ConnectionConfig.isSome_token rfl, alike.tokenBlank]
  next => exact .inl ⟨_, rfl, rfl⟩

/-- The settings after all checks. -/
def validated (s : Settings) : Except Rejected ValidatedConfig := do (← s.toConfig).validate

/-- **Both are rejected for the same problems, or what is shown of both is the
same.** -/
theorem Alike.validated (alike : s.Alike t) :
    (∃ r, s.validated = .error r ∧ t.validated = .error r)
      ∨ ∃ v w, s.validated = .ok v ∧ t.validated = .ok w ∧ v.debugText = w.debugText
        ∧ CommandLine.masked (Wire.ConnectBody.codec.toValue v.body)
          = CommandLine.masked (Wire.ConnectBody.codec.toValue w.body) := by
  unfold Settings.validated
  rcases alike.toConfig with ⟨r, left, right⟩ | ⟨c, d, left, right, alike⟩
  · rw [left, right]
    exact .inl ⟨r, rfl, rfl⟩
  · rw [left, right]
    rcases alike.validate with ⟨r, left, right⟩ | ⟨v, w, left, right, body, body'⟩
    · exact .inl ⟨r, left, right⟩
    · refine .inr ⟨v, w, left, right, ?_, ?_⟩
      · unfold ValidatedConfig.debugText
        rw [body, body', alike.eq]
        rfl
      · rw [body, body']
        exact alike.maskedBody

end Settings

/-! ## §4. Through a run. -/

namespace CommandLine

variable {s t : Settings}

theorem renderedConfig_eq (s : Settings) :
    renderedConfig s = s.validated.map fun v => Wire.ConnectBody.codec.toValue v.body := by
  unfold renderedConfig Settings.validated
  cases s.toConfig with
  | error r => rfl
  | ok c => rfl

/-- The command prints settings or their config with credentials hidden. -/
inductive Hides : SettingsCommand → Prop where
  | «show» : Hides (.show false)
  | renderConfig : Hides (.renderConfig false)

/-- **Such a command answers the same to alike settings.** -/
theorem perform_of_alike {σ : Type} (terminal : Terminal) {backend : SecretStore σ}
    {command : SettingsCommand} (hides : Hides command) {a b : SettingsStore σ}
    (taken : a.current.Alike b.current)
    (again : (a.reload backend).current.Alike (b.reload backend).current) :
    (perform terminal backend command a).1 = (perform terminal backend command b).1 := by
  cases hides with
  | «show» => exact congrArg Except.ok (printed_of_masked again.masked)
  | renderConfig =>
      rw [perform, perform, renderedConfig_eq, renderedConfig_eq]
      rcases taken.validated with ⟨r, left, right⟩ | ⟨v, w, left, right, -, same⟩
      · rw [left, right]
        rfl
      · rw [left, right]
        exact congrArg Except.ok (printed_of_masked same)

/-- A run comes to its command, and its store holds these settings, however
often it is read. -/
structure Serves (around : Surroundings) (words : List String) (m : Machine) (i : Invocation)
    (config : AppConfig) (s : Settings) : Prop where
  prepared : prepare around words m.files = .ok (i, config)
  taken : (SettingsStore.load (i.store config) m).current = SettingsStore.repaired s
  again : (SettingsStore.reload (i.store config) (.load (i.store config) m)).current
    = SettingsStore.repaired s

/-- Two settings cannot be told apart by anything that is printed with
credentials hidden. -/
structure Untold (s t : Settings) : Prop where
  debugText : s.debugText = t.debugText
  validated : s.validated.map ValidatedConfig.debugText = t.validated.map ValidatedConfig.debugText
  connectCall : (s.validated.map fun v => (EngineCall.connect v.json).debugText)
    = t.validated.map fun v => (EngineCall.connect v.json).debugText
  /-- Neither by what a run prints nor by how it fails, on any two storages. -/
  runs : ∀ around words m m' i config command, Hides command →
    i.command = .onSettings command → Serves around words m i config s →
    Serves around words m' i config t → (run around words m).1 = (run around words m').1

/-- **What is printed with credentials hidden depends on no credential**, but
for whether it is empty and whether it is blank. -/
theorem credentials_are_never_told (alike : s.Alike t) : Untold s t where
  debugText := alike.debugText
  validated := by
    rcases alike.validated with ⟨r, left, right⟩ | ⟨v, w, left, right, same, -⟩
    · rw [left, right]
    · rw [left, right]
      exact congrArg Except.ok same
  connectCall := by
    rcases alike.validated with ⟨r, left, right⟩ | ⟨v, w, left, right, -, -⟩
    · rw [left, right]
    · rw [left, right]
      rfl
  runs := by
    intro around words m m' i config command hides asked serves serves'
    rw [run_of_onSettings serves.prepared asked, run_of_onSettings serves'.prepared asked]
    refine perform_of_alike around.terminal hides ?_ ?_
    · rw [serves.taken, serves'.taken]
      exact alike.repaired
    · rw [serves.again, serves'.again]
      exact alike.repaired

/-- Settings that are taken up from a file are those of every reading. -/
theorem serves_of_recordAt {path : Path} {around : Surroundings} {words : List String} {m : Machine}
    (kept : KeptIn path around words m) {i : Invocation} {config : AppConfig}
    (prepared : prepare around words m.files = .ok (i, config))
    (record : recordAt path m = SettingsStore.repaired s) : Serves around words m i config s where
  prepared := prepared
  taken := by rw [kept.store prepared, load_onFiles, record]
  again := by
    rw [kept.store prepared, load_onFiles, SettingsStore.reload, load_onFiles, record]

/-- A computer whose file `s` holds settings. -/
def holding (s : Settings) : Machine where
  files := (FileTree.onlyFolders ["home"]).put ["home", "s"]
    (.file (.text (FileStore.codec.encodePretty [(SettingsStore.key, s.json)])) 0o600)

theorem recordAt_holding (usable : mtuInRange s.mtu.toNat = true) :
    recordAt (Path.ofText "s") (holding s) = s := by
  have text : (holding s).files.readText (Path.ofText "s")
      = .ok (FileStore.codec.encodePretty [(SettingsStore.key, s.json)]) := rfl
  have ordered : Entries.Ordered [(SettingsStore.key, s.json)] := List.pairwise_singleton _ _
  have read : FileStore.contents (Path.ofText "s") (holding s).files
      = .ok (Entries.insert SettingsStore.key s.json []) := by
    rw [FileStore.contents_of_text text]
    exact FileStore.decode_encodePretty ordered
  exact recordAt_of_put usable read

/-- Two secrets that are shown alike. -/
theorem other_secret_is_shown_alike :
    let s : Settings := { endpoint := "vpn", id := "a", secret := "first", orgId := "o" }
    let t : Settings := { endpoint := "vpn", id := "a", secret := "second", orgId := "o" }
    let around := Surroundings.bare
    let words := ["--settings-file", "s", "render-config"]
    s.Alike t ∧ Untold s t
      ∧ (run around words (holding s)).1 = (run around words (holding t)).1 := by
  intro s t around words
  have alike : s.Alike t :=
    { others := rfl, secretEmpty := by decide, secretBlank := by decide, tokenEmpty := by decide
      tokenBlank := by decide }
  have untold := credentials_are_never_told alike
  let i : Invocation := ⟨none, some "s", 0, false, .onSettings (.renderConfig false)⟩
  obtain ⟨config, prepared⟩ : ∃ config, ∀ x, prepare around words (holding x).files = .ok (i, config) :=
    ⟨_, fun _ => rfl⟩
  have serves (x : Settings) (default : x.mtu = 1420) : Serves around words (holding x) i config x := by
    have usable : mtuInRange x.mtu.toNat = true := by rw [default]; decide
    have record : recordAt (Path.ofText "s") (holding x) = SettingsStore.repaired x := by
      rw [recordAt_holding usable, SettingsStore.repaired, if_pos usable]
    exact serves_of_recordAt (keptIn_of_prepare (prepared x) rfl) (prepared x) record
  exact ⟨alike, untold,
    untold.runs around words _ _ i config _ .renderConfig rfl (serves s rfl) (serves t rfl)⟩

end CommandLine

end TunnelControl
