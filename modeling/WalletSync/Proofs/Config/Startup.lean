import WalletSync.Config.Bridges
import WalletSync.Config.Load

/-!
From settings to bridges. Whatever the check of settings lets pass is enough to set up a bridge for
every family that has a section, and no node of a chain is left out, since the check and the setup
take the same texts for URLs. The client that the bridges use needs one thing more: the library that
reaches servers has to accept the name that requests are sent under, and this the check does not
look at.
-/

namespace WalletSync

namespace Config

/-- The family has a section in the settings. -/
def hasSection (config : Config) : Family → Bool
  | .elrond => config.elrond.isSome
  | .ethereum => config.ethereum.isSome

theorem check_eq_nil_iff {field : String} {fault : Option ConfigFault} :
    check field fault = [] ↔ fault = none := by
  cases fault with
  | none => exact ⟨fun _ => rfl, fun _ => rfl⟩
  | some fault => exact ⟨nofun, nofun⟩

theorem isUrl_of_no_fault {url : String} (faultless : urlFault? url = none) :
    Ethereum.isUrl url = true := by
  unfold urlFault? at faultless
  unfold Ethereum.isUrl
  cases parsed : Url.parse url with
  | ok => rfl
  | error cause =>
      rw [parsed] at faultless
      cases faultless

/-- Every node of accepted settings has a URL, the first one and all others. -/
theorem isUrl_of_ethereumErrors {settings : EthereumSettings}
    (accepted : ethereumErrors settings = []) :
    ∀ url ∈ settings.rpcUrl :: settings.failoverUrls, Ethereum.isUrl url = true := by
  simp only [ethereumErrors, List.append_eq_nil_iff, check_eq_nil_iff, List.flatMap_eq_nil_iff]
    at accepted
  obtain ⟨⟨⟨⟨first, others⟩, -⟩, -⟩, -⟩ := accepted
  intro url listed
  rcases List.mem_cons.mp listed with rfl | failover
  · exact isUrl_of_no_fault first
  · obtain ⟨i, place⟩ := List.mem_iff_getElem?.mp failover
    exact isUrl_of_no_fault (others (url, i) (List.mk_mem_zipIdx_iff_getElem?.mpr place))

theorem ethereumErrors_of_errors {config : Config} {settings : EthereumSettings}
    (accepted : config.errors = []) (configured : config.ethereum = some settings) :
    ethereumErrors settings = [] := by
  rw [errors, List.append_eq_nil_iff, configured] at accepted
  exact accepted.2

theorem errors_of_parse {text : String} {config : Config} (parsed : parse text = .ok config) :
    config.errors = [] := by
  unfold parse at parsed
  split at parsed
  · cases parsed
  · split at parsed
    · next accepted =>
        cases parsed
        exact accepted
    · cases parsed

end Config

/-- No node of accepted settings is left out. -/
theorem Ethereum.Servers.ofSettings_of_accepted {settings : EthereumSettings}
    (accepted : Config.ethereumErrors settings = []) :
    ∃ servers, Servers.ofSettings settings = .ok servers ∧
      servers.node :: servers.failovers = settings.rpcUrl :: settings.failoverUrls := by
  have urls := Config.isUrl_of_ethereumErrors accepted
  have kept : settings.failoverUrls.filter isUrl = settings.failoverUrls :=
    List.filter_eq_self.mpr fun url listed => urls url (List.mem_cons_of_mem _ listed)
  rw [ofSettings, if_pos (urls _ List.mem_cons_self)]
  exact ⟨_, rfl, by rw [kept]⟩

section Registry

variable {m : Type → Type}

theorem Registry.families_eq {registry : Registry m} {config : Config}
    (listed : ∀ family, (registry.get? family).isSome = config.hasSection family) :
    registry.families = Family.all.filter config.hasSection :=
  List.filter_congr fun family _ => listed family

variable [Monad m]

/-- The registry has the bridges that the settings ask for, each with all of its servers. -/
structure Registry.Serves (registry : Registry m) (config : Config) (client : HttpClient m)
    (library : Ethereum.NodeLibrary m) : Prop where
  families : registry.families = Family.all.filter config.hasSection
  elrond : registry.get? .elrond = config.elrond.map fun settings =>
    ⟨.elrond, Elrond.api client (.ofSettings settings), config.scan⟩
  ethereum : ∀ settings, config.ethereum = some settings →
    ∃ servers, Ethereum.Servers.ofSettings settings = .ok servers ∧
      servers.node :: servers.failovers = settings.rpcUrl :: settings.failoverUrls ∧
      registry.get? .ethereum = some ⟨.ethereum, Ethereum.api client library servers, config.scan⟩

theorem Registry.serves_of_accepted {config : Config} (accepted : config.errors = [])
    (client : HttpClient m) (library : Ethereum.NodeLibrary m) :
    ∃ registry, Registry.ofConfig config client library = .ok registry ∧
      registry.Serves config client library := by
  unfold Registry.ofConfig
  extract_lets base
  have known : base.get? .elrond = config.elrond.map fun settings =>
      ⟨.elrond, Elrond.api client (.ofSettings settings), config.scan⟩ := by
    unfold base
    cases config.elrond <;> rfl
  have missing : base.get? .ethereum = none := by
    unfold base
    cases config.elrond <;> rfl
  cases configured : config.ethereum with
  | none =>
      have listed : ∀ family, (base.get? family).isSome = config.hasSection family
        | .elrond => by rw [known, Option.isSome_map, Config.hasSection]
        | .ethereum => by rw [missing, Config.hasSection, configured]; rfl
      exact ⟨base, rfl, families_eq listed, known, by rw [configured]; nofun⟩
  | some settings =>
      obtain ⟨servers, read, nodes⟩ := Ethereum.Servers.ofSettings_of_accepted
        (Config.ethereumErrors_of_errors accepted configured)
      let both := base.insert ⟨.ethereum, Ethereum.api client library servers, config.scan⟩
      have kept : both.get? .elrond = base.get? .elrond := base.get?_insert _ _
      have added : both.get? .ethereum =
          some ⟨.ethereum, Ethereum.api client library servers, config.scan⟩ := base.get?_insert _ _
      have listed : ∀ family, (both.get? family).isSome = config.hasSection family
        | .elrond => by rw [kept, known, Option.isSome_map, Config.hasSection]
        | .ethereum => by rw [added, Config.hasSection, configured]; rfl
      refine ⟨both, by simp only [read]; rfl, families_eq listed, kept.trans known, ?_⟩
      intro others same
      rw [configured] at same
      cases same
      exact ⟨servers, read, nodes, added⟩

end Registry

section Startup

variable {m : Type → Type} (connect : String → Except String (Exchange m))
  (surroundings : Surroundings m)

theorem HttpClient.ofConfig_ok_iff {config : Config} {client : HttpClient m} :
    HttpClient.ofConfig connect surroundings config = .ok client ↔
      ∃ exchange, connect config.network.userAgent = .ok exchange ∧
        client = ⟨surroundings, exchange, config.network, config.retries⟩ := by
  unfold HttpClient.ofConfig
  cases connect config.network.userAgent with
  | ok exchange => simp [eq_comm]
  | error reason => simp

variable [Monad m] (library : Ethereum.NodeLibrary m)

/-- Accepted settings start up, with a bridge for every section and no node left out, exactly when
a connection can be had under the name that requests are sent under. If there is one for every name
that may stand in a header, it is enough that this name may. -/
theorem startup_of_accepted {IsHeaderValue : String → Prop}
    (fits : ∀ name, IsHeaderValue name → ∃ exchange, connect name = .ok exchange) {config : Config}
    (accepted : config.errors = [] ∨ ∃ text, Config.parse text = .ok config) :
    ((∃ client registry, HttpClient.ofConfig connect surroundings config = .ok client ∧
        Registry.ofConfig config client library = .ok registry ∧
        registry.Serves config client library) ↔
      ∃ exchange, connect config.network.userAgent = .ok exchange) ∧
    (IsHeaderValue config.network.userAgent →
      ∃ client registry, HttpClient.ofConfig connect surroundings config = .ok client ∧
        Registry.ofConfig config client library = .ok registry ∧
        registry.Serves config client library) := by
  have faultless : config.errors = [] := by
    rcases accepted with faultless | ⟨text, parsed⟩
    · exact faultless
    · exact Config.errors_of_parse parsed
  have starts (exchange : Exchange m)
      (connected : connect config.network.userAgent = .ok exchange) :
      ∃ client registry, HttpClient.ofConfig connect surroundings config = .ok client ∧
        Registry.ofConfig config client library = .ok registry ∧
        registry.Serves config client library := by
    have made := (HttpClient.ofConfig_ok_iff connect surroundings).mpr ⟨exchange, connected, rfl⟩
    obtain ⟨registry, set, serves⟩ := Registry.serves_of_accepted faultless
      ⟨surroundings, exchange, config.network, config.retries⟩ library
    exact ⟨_, registry, made, set, serves⟩
  refine ⟨⟨?_, fun ⟨exchange, connected⟩ => starts exchange connected⟩, fun fit => ?_⟩
  · rintro ⟨client, -, made, -⟩
    obtain ⟨exchange, connected, -⟩ := (HttpClient.ofConfig_ok_iff connect surroundings).mp made
    exact ⟨exchange, connected⟩
  · obtain ⟨exchange, connected⟩ := fits _ fit
    exact starts exchange connected

end Startup

section Samples

/-- Both families, with two nodes to fall back on. -/
def sampleSettings : String :=
  "[families.elrond]\napi_url = \"http://[::1]\"\n" ++
  "[families.ethereum]\nrpc_url = \"http://[::2]\"\n" ++
  "failover_urls = [\"https://[::4]:1/x\", \"http://[::3]\"]\n" ++
  "explorer_url = \"http://[::5]\""

/-- Settings that give a name of two lines to send requests under. -/
def twoLineName : String := "network.user_agent = \"two\\nlines\""

/-- Names of one line are accepted, and nothing ever comes back. -/
def oneLine (name : String) : Except String (Exchange Id) :=
  if '\n' ∈ name.toList then .error "builder error" else .ok fun _ _ => .lost

def still : Surroundings Id := ⟨fun most => Fin.last most, fun _ => ()⟩

def deafNodes : Ethereum.NodeLibrary Id := ⟨fun _ _ _ => none, id, id⟩

theorem startup_of_sampleSettings :
    ∃ config, Config.parse sampleSettings = .ok config ∧
      ∃ (client : HttpClient Id) (registry : Registry Id),
        HttpClient.ofConfig oneLine still config = .ok client ∧
        Registry.ofConfig config client deafNodes = .ok registry ∧
        registry.families = [.elrond, .ethereum] ∧
        ∃ servers : Ethereum.Servers,
          servers.node :: servers.failovers =
            ["http://[::2]", "https://[::4]:1/x", "http://[::3]"] ∧
          registry.get? .ethereum =
            some ⟨.ethereum, Ethereum.api client deafNodes servers, config.scan⟩ := by
  have read : (Config.parse sampleSettings).toOption.map (fun config =>
      (decide ('\n' ∈ config.network.userAgent.toList), config.elrond.isSome,
        config.ethereum.map fun settings => settings.rpcUrl :: settings.failoverUrls)) =
      some (false, true, some ["http://[::2]", "https://[::4]:1/x", "http://[::3]"]) := by
    decide +kernel
  have fits (name : String) (short : '\n' ∉ name.toList) :
      ∃ exchange, oneLine name = .ok exchange := ⟨_, if_neg short⟩
  cases parsed : Config.parse sampleSettings with
  | error => rw [parsed] at read; cases read
  | ok config =>
      rw [parsed] at read
      obtain ⟨short, one, urls⟩ := by
        simpa only [Except.toOption, Option.map_some, Option.some.injEq, Prod.mk.injEq] using read
      obtain ⟨settings, configured, nodes⟩ := Option.map_eq_some_iff.mp urls
      obtain ⟨client, registry, made, set, serves⟩ := (startup_of_accepted oneLine still deafNodes
        fits (.inr ⟨sampleSettings, parsed⟩)).2 (of_decide_eq_false short)
      obtain ⟨servers, -, kept, added⟩ := serves.ethereum settings configured
      refine ⟨config, rfl, client, registry, made, set, ?_, servers, kept.trans nodes, added⟩
      rw [serves.families]
      simp [Family.all, Config.hasSection, one, configured]

/-- The check lets a name pass that no request can be sent under, and nothing starts up. -/
theorem twoLineName_is_accepted :
    ∃ config, Config.parse twoLineName = .ok config ∧ config.errors = [] ∧
      config.network.userAgent = "two\nlines" ∧
      HttpClient.ofConfig oneLine still config =
        .error (.invalidRequest (.invalidUserAgent "builder error")) := by
  have read : (Config.parse twoLineName).toOption.map (fun config => config.network.userAgent) =
      some "two\nlines" := by decide +kernel
  cases parsed : Config.parse twoLineName with
  | error => rw [parsed] at read; cases read
  | ok config =>
      rw [parsed] at read
      have name : config.network.userAgent = "two\nlines" := Option.some.inj read
      refine ⟨config, rfl, Config.errors_of_parse parsed, name, ?_⟩
      rw [HttpClient.ofConfig, name]
      rfl

end Samples

end WalletSync
