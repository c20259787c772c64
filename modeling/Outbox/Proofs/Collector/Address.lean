import Outbox.Config.Basic
import Outbox.Proofs.Collector.Calls
import Outbox.Proofs.Files.Finding
import Outbox.Proofs.Http.Destination

/-!
# The address of the collector

A configuration that is accepted with the collector enabled gives a client, whose address is the
configured one without the slashes at its end (`loadFrom_client`). The requests of the client lead
where the configured address leads, unless nothing but slashes and what is not read stands behind
its scheme: then they lead to a host with the name of the first part of the path (`keepsTo_iff`).
-/

namespace Outbox

open Http (Destination Request Url)
open Http.Url (IsBare authority behindAuthority destinationOf? isEdge_of_isVisible isSkipped isSlash
  isVisible readEnd scheme shortened)

variable {url : String} {secure : Bool} {v : List Char} {client : Client} {request : Request}

/-! ### Accepted configurations -/

namespace CollectorSettings

/-- What stands behind the scheme of an address and its two slashes. -/
def behindScheme (url : String) : List Char := (url.toList.dropWhile (· != ':')).drop 3

/-- Settings that can be used with the collector enabled. -/
structure Enabled (c : CollectorSettings) (url : String) : Prop where
  batchSize : 1 ≤ c.batchSize ∧ c.batchSize ≤ maxBatchSize
  timeout : 1 ≤ c.timeout
  serverUrl : c.serverUrl = some url
  isHttp : isHttp url = true

theorem enabled_of_validate {c : CollectorSettings} (valid : c.validate = .ok ())
    (enabled : c.enabled = true) : ∃ url, c.Enabled url := by
  unfold validate at valid
  rw [enabled] at valid
  split at valid
  · cases valid
  next size =>
  split at valid
  · cases valid
  next timeout =>
  cases given : c.serverUrl with
  | none =>
    rw [given] at valid
    cases valid
  | some url =>
    rw [given] at valid
    cases web : CollectorSettings.isHttp url with
    | false => simp [web] at valid
    | true => exact ⟨url, by omega, by omega, given, web⟩

/-- An address of the web has a scheme and two slashes behind it. -/
theorem isHttp_iff : isHttp url = true ↔
    ∃ secure, url.toList = scheme secure ++ ':' :: '/' :: '/' :: behindScheme url := by
  have written (secure : Bool) (t : List Char)
      (h : url.toList = scheme secure ++ ':' :: '/' :: '/' :: t) :
      url.toList = scheme secure ++ ':' :: '/' :: '/' :: behindScheme url := by
    have same : behindScheme url = t := by
      rw [behindScheme, h]
      cases secure <;> rfl
    rw [same, h]
  unfold isHttp
  rw [Bool.or_eq_true, List.isPrefixOf_iff_prefix, List.isPrefixOf_iff_prefix]
  constructor
  · rintro (⟨t, h⟩ | ⟨t, h⟩)
    · exact ⟨false, written false t h.symm⟩
    · exact ⟨true, written true t h.symm⟩
  · rintro ⟨secure, h⟩
    cases secure with
    | false => exact .inl ⟨behindScheme url, h.symm⟩
    | true => exact .inr ⟨behindScheme url, h.symm⟩

end CollectorSettings

open CollectorSettings (behindScheme isHttp isHttp_iff)

/-- A configuration that is accepted can be used. -/
theorem Config.validate_of_loadFrom {files : Files} {path : Path} {config : Config}
    (accepted : loadFrom files path = .ok config) : config.collector.validate = .ok () := by
  unfold loadFrom at accepted
  split at accepted
  · cases accepted
  next text _ =>
  unfold ofText at accepted
  split at accepted
  · cases accepted
  next spelled _ =>
  split at accepted
  · cases accepted
  next valid =>
  cases accepted
  exact valid

namespace Client

theorem ofSettings_enabled {c : CollectorSettings} (valid : c.validate = .ok ())
    (h : c.Enabled url) : ofSettings c = .ok ⟨withoutSlashes url⟩ := by
  rw [ofSettings, valid, h.serverUrl]

/-! ### The address without slashes at its end -/

theorem toList_withoutSlashes (url : String) :
    (withoutSlashes url).toList = url.toList.rdropWhile (· == '/') := String.toList_ofList

/-- Only slashes are taken away. -/
theorem withoutSlashes_append (url : String) :
    ∃ slashes : String, url = withoutSlashes url ++ slashes ∧ ∀ c ∈ slashes.toList, c = '/' := by
  refine ⟨String.ofList (url.toList.rtakeWhile (· == '/')), ?_, fun c hc => ?_⟩
  · rw [← String.toList_inj, String.toList_append, toList_withoutSlashes, String.toList_ofList,
      List.rdropWhile_append_rtakeWhile]
  · rw [String.toList_ofList] at hc
    simpa using List.mem_rtakeWhile_imp hc

theorem getLast_withoutSlashes (url : String) :
    (withoutSlashes url).toList.getLast? ≠ some '/' := by
  intro ends
  rw [toList_withoutSlashes] at ends
  have some : url.toList.rdropWhile (· == '/') ≠ [] := by
    intro none
    rw [none] at ends
    cases ends
  rw [List.getLast?_eq_some_getLast some] at ends
  have other := List.rdropWhile_last_not (· == '/') url.toList some
  rw [Option.some.inj ends] at other
  exact other rfl

theorem toList_withoutSlashes_scheme (h : url.toList = scheme secure ++ ':' :: v) :
    (withoutSlashes url).toList = scheme secure ++ ':' :: shortened v := by
  rw [toList_withoutSlashes, h, Http.Url.rdropWhile_cons (by decide), shortened]

/-- The slashes of the scheme stay if something else stands behind them. -/
theorem shortened_scheme (h : ∃ c ∈ v, c ≠ '/') :
    shortened ('/' :: '/' :: v) = '/' :: '/' :: shortened v := by
  obtain ⟨c, hc, other⟩ := h
  obtain ⟨front, back, rfl⟩ := List.append_of_mem hc
  have kept (a : List Char) : shortened (a ++ c :: back) = a ++ c :: shortened back :=
    Http.Url.rdropWhile_cons (by simpa using other) a back
  rw [kept front]
  exact kept ('/' :: '/' :: front)

/-- Otherwise they are taken away too. -/
theorem shortened_slashes (h : ∀ c ∈ v, c = '/') : shortened ('/' :: '/' :: v) = [] := by
  refine List.rdropWhile_eq_nil_iff.mpr fun c hc => ?_
  rcases List.mem_cons.mp hc with rfl | hc
  · rfl
  rcases List.mem_cons.mp hc with rfl | hc
  · rfl
  · simpa using h c hc

/-- The address is one of the web still, unless nothing but slashes stood behind its scheme. -/
theorem isHttp_withoutSlashes (web : isHttp url = true) :
    isHttp (withoutSlashes url) = true ↔ ∃ c ∈ behindScheme url, c ≠ '/' := by
  obtain ⟨secure, h⟩ := isHttp_iff.mp web
  have short := toList_withoutSlashes_scheme h
  by_cases some : ∃ c ∈ behindScheme url, c ≠ '/'
  · rw [shortened_scheme some] at short
    refine iff_of_true ?_ some
    unfold isHttp
    rw [short]
    cases secure <;> simp [scheme]
  · have slashes : ∀ c ∈ behindScheme url, c = '/' := by simpa using some
    rw [shortened_slashes slashes] at short
    refine iff_of_false (fun web' => ?_) some
    -- nothing stands behind the colon of the scheme any more
    obtain ⟨secure', h'⟩ := isHttp_iff.mp web'
    rw [short] at h'
    cases secure <;> cases secure' <;> simp [scheme] at h'

/-! ### Where the requests lead -/

/-- The client makes this request for one of its calls. -/
def Makes (client : Client) (request : Request) : Prop :=
  ∃ credential : Credential, (∃ batch, (client.sendBatch batch credential).Asks request) ∨
    (client.exportData credential).Asks request ∨ (client.eraseData credential).Asks request

/-- Every request of the client leads where the address leads. -/
def KeepsTo (client : Client) (url : String) : Prop :=
  ∀ request, client.Makes request →
    ∃ named, Url.ofText? url = some named ∧ request.url.destination = named.destination

theorem ofText_of_request {method path body : String} {credential : Credential}
    (h : client.request method path body credential = .ok request) :
    Url.ofText? (client.baseUrl ++ path) = some request.url := by
  unfold Client.request at h
  split at h
  · cases h
  next named read =>
  split at h
  · cases h
    exact read
  · cases h

/-- The address of a request is the one of the client with a path behind it. -/
theorem Makes.address (h : client.Makes request) : ∃ path q : String,
    path.toList = '/' :: q.toList ∧ isVisible path.toList = true ∧
      Url.ofText? (client.baseUrl ++ path) = some request.url := by
  obtain ⟨credential, ⟨batch, asks⟩ | asks | asks⟩ := h
  · exact ⟨batchPath, "network-requests/batch", by decide, by decide,
      ofText_of_request (guarded_asks.mp asks).2⟩
  · exact ⟨exportPath, "network-requests/me/data/export", by decide, by decide,
      ofText_of_request (exportData_asks.mp asks).2⟩
  · exact ⟨erasePath, "network-requests/me/data", by decide, by decide,
      ofText_of_request (eraseData_asks.mp asks).2⟩

theorem toList_append_path (path : String) (h : url.toList = scheme secure ++ ':' :: v) :
    (withoutSlashes url ++ path).toList = scheme secure ++ ':' :: (shortened v ++ path.toList) := by
  rw [String.toList_append, toList_withoutSlashes_scheme h, List.append_assoc, List.cons_append]

/-- The requests lead where the address leads if it is not bare. -/
theorem keepsTo_of_not_isBare (h : url.toList = scheme secure ++ ':' :: v) (hv : ¬ IsBare v) :
    KeepsTo ⟨withoutSlashes url⟩ url := by
  intro request made
  obtain ⟨path, q, slash, visible, read⟩ := made.address
  have leads := Http.Url.destination_ofText (toList_append_path path h)
  rw [read, slash, Option.map_some] at leads
  rw [slash] at visible
  rcases Http.Url.authority_shortened hv (isEdge_of_isVisible visible) secure with none | same
  · rw [none] at leads
    cases leads
  · rw [same, ← Http.Url.destination_ofText h] at leads
    obtain ⟨named, spelled, same⟩ := Option.map_eq_some_iff.mp leads.symm
    exact ⟨named, spelled, same.symm⟩

/-! ### Addresses with slashes alone -/

/-- The first part of each path, read as the name of a host. -/
theorem ofText_pathHost :
    Http.Host.ofText? "network-requests".toList = some "network-requests" := by
  have decoded : Text.decode? (Http.Percent.decode "network-requests".toList) =
      some "network-requests" := by
    decide +kernel
  have plain : ("network-requests".toList.all fun c =>
      decide (c.toNat < 0x80) && decide (c.toLower = c)) = true := by
    decide
  simp only [List.all_eq_true, Bool.and_eq_true, decide_eq_true_eq] at plain
  have written : Domain.written? "network-requests".toList = some "network-requests".toList :=
    Domain.written_plain (fun c hc => (plain c hc).1) (fun c hc => (plain c hc).2) (by decide)
  have named : Http.Host.ofText? "network-requests".toList = (do
    let name ← Domain.written?
      (← Text.decode? (Http.Percent.decode "network-requests".toList)).toList
    if name.isEmpty ∨ name.any Http.Host.isForbidden then none
    else if Http.Host.endsInNumber name then Http.Host.numericHost? name
    else return String.ofList name) := rfl
  simp only [named, decoded, written, Option.bind_eq_bind, Option.bind_some]
  decide

/-- Where requests lead whose path is taken for an authority. -/
def pathHost (secure : Bool) : Destination :=
  { secure, user := "", password := none, host := "network-requests", port := none }

theorem destinationOf_pathHost (secure : Bool) :
    destinationOf? secure "network-requests".toList = some (pathHost secure) := by
  have parts : Url.splitUser "network-requests".toList = (none, "network-requests".toList) := by
    decide
  have port : Url.splitPort "network-requests".toList = ("network-requests".toList, []) := by
    decide
  simp only [destinationOf?, parts, port, ofText_pathHost]
  cases secure <;> rfl

/-- The address of an erasure whose path is taken for an authority. -/
def pathAddress (secure : Bool) : Url :=
  Http.Url.ofDestination (pathHost secure) (behindAuthority erasePath.toList)

theorem ofRest_erasePath (secure : Bool) :
    Url.ofRest? secure erasePath.toList = some (pathAddress secure) := by
  have first : authority erasePath.toList = "network-requests".toList := by decide
  rw [Http.Url.ofRest_eq, first, destinationOf_pathHost]
  rfl

theorem isRequestable_pathAddress (secure : Bool) : (pathAddress secure).isRequestable = true := by
  cases secure with
  | false => rfl
  | true => rfl

/-- A bare address leads nowhere, and yet there is a request, with the token of the user. -/
theorem elsewhere_of_isBare (h : url.toList = scheme secure ++ ':' :: v) (hv : IsBare v) :
    Url.ofText? url = none ∧ ∃ request,
      (Client.eraseData ⟨withoutSlashes url⟩ ⟨"token"⟩).Asks request ∧
        request.url.destination = pathHost secure ∧ "Bearer token" ∈ request.authorization := by
  have visible : isVisible ('/' :: "network-requests/me/data".toList) = true := by decide
  obtain ⟨nothing, bared⟩ := Http.Url.ofRest_bared hv (isEdge_of_isVisible visible) secure
  constructor
  · have leads := Http.Url.destination_ofText h
    rw [nothing] at leads
    have nowhere : destinationOf? secure [] = none := by
      cases secure <;> decide +kernel
    rw [nowhere] at leads
    exact Option.map_eq_none_iff.mp leads
  · have read : Url.ofText? (withoutSlashes url ++ erasePath) = some (pathAddress secure) := by
      rw [Http.Url.ofText_scheme (toList_append_path erasePath h), ← ofRest_erasePath]
      exact bared
    obtain ⟨request, made, leads, bearer⟩ : ∃ request,
        Client.request ⟨withoutSlashes url⟩ "DELETE" erasePath "" ⟨"token"⟩ = .ok request ∧
          request.url = pathAddress secure ∧ "Bearer token" ∈ request.authorization := by
      unfold Client.request
      simp only [read, isRequestable_pathAddress, if_true]
      exact ⟨_, rfl, rfl, List.mem_append_right _ List.mem_cons_self⟩
    refine ⟨request, eraseData_asks.mpr ⟨by decide, made⟩, ?_, bearer⟩
    rw [leads]
    rfl

/-- The requests lead where the address leads exactly if it is not bare. -/
theorem keepsTo_iff (web : isHttp url = true) : KeepsTo ⟨withoutSlashes url⟩ url ↔
    ∃ c ∈ behindScheme url, c ∉ ['/', '\\', '\t', '\n', '\r'] := by
  obtain ⟨secure, h⟩ := isHttp_iff.mp web
  have bare : IsBare ('/' :: '/' :: behindScheme url) ↔
      ¬ ∃ c ∈ behindScheme url, c ∉ ['/', '\\', '\t', '\n', '\r'] := by
    simp only [IsBare, List.forall_mem_cons, not_exists, not_and, not_not]
    refine ⟨fun hv c hc => ?_, fun hv => ⟨.inl rfl, .inl rfl, fun c hc => ?_⟩⟩
    · have read := hv.2.2 c hc
      simpa [isSlash, isSkipped, or_assoc] using read
    · have read := hv c hc
      simpa [isSlash, isSkipped, or_assoc] using read
  constructor
  · intro keeps
    by_contra none
    obtain ⟨nowhere, request, asks, -⟩ := elsewhere_of_isBare h (bare.mpr none)
    obtain ⟨named, spelled, -⟩ := keeps request ⟨⟨"token"⟩, .inr (.inr asks)⟩
    rw [nowhere] at spelled
    cases spelled
  · intro some
    exact keepsTo_of_not_isBare h fun hv => bare.mp hv some

end Client

/-- A configuration that is accepted with the collector enabled has its numbers in their bounds and
gives a client, whose address is the configured one without the slashes at its end. -/
theorem loadFrom_client {files : Files} {path : Path} {config : Config}
    (accepted : Config.loadFrom files path = .ok config)
    (enabled : config.collector.enabled = true) :
    1 ≤ config.collector.batchSize ∧ config.collector.batchSize ≤ 500 ∧
      1 ≤ config.collector.timeout ∧
      ∃ (url : String) (client : Client), config.collector.serverUrl = some url ∧
        Client.ofSettings config.collector = .ok client ∧
        (∃ slashes : String, url = client.baseUrl ++ slashes ∧ ∀ c ∈ slashes.toList, c = '/') ∧
        client.baseUrl.toList.getLast? ≠ some '/' ∧
        (isHttp client.baseUrl = true ↔ ∃ c ∈ behindScheme url, c ≠ '/') ∧
        (client.KeepsTo url ↔
          ∃ c ∈ behindScheme url, c ∉ ['/', '\\', '\t', '\n', '\r']) := by
  have valid := Config.validate_of_loadFrom accepted
  obtain ⟨url, h⟩ := CollectorSettings.enabled_of_validate valid enabled
  refine ⟨h.batchSize.1, h.batchSize.2, h.timeout, url, ⟨Client.withoutSlashes url⟩, h.serverUrl,
    Client.ofSettings_enabled valid h, Client.withoutSlashes_append url,
    Client.getLast_withoutSlashes url, Client.isHttp_withoutSlashes h.isHttp,
    Client.keepsTo_iff h.isHttp⟩

/-- A file with the address of a collector. -/
def addressed (url : String) : Files where
  root := .directory [("config.toml", .file (Text.encode
    ("[collector]\nenabled = true\nserver_url = \"" ++ url ++ "\"\n")))]

/-- The configuration in that file. -/
def addressedConfig (url : String) : Config where
  collector := { enabled := true, serverUrl := some url }

theorem loadFrom_addressed {url : String} {config : Config}
    (spelled : Config.ofText ("[collector]\nenabled = true\nserver_url = \"" ++ url ++ "\"\n") =
      .ok config) :
    Config.loadFrom (addressed url) ⟨[], "config.toml"⟩ = .ok config := by
  have fault : Path.fault? ⟨[], "config.toml"⟩ = none :=
    Path.fault?_eq_none_iff.mpr (by decide)
  have slash : Path.endsInSlash ⟨[], "config.toml"⟩ = false := by decide +kernel
  have start : Path.start ⟨[], "config.toml"⟩ = [] := by decide +kernel
  have names : Path.names ⟨[], "config.toml"⟩ = ["config.toml"] := by decide +kernel
  have walked : (addressed url).walk (Path.start ⟨[], "config.toml"⟩)
      (Path.names ⟨[], "config.toml"⟩) = .ok ["config.toml"] := by
    rw [start, names]
    rfl
  have there : (addressed url).get ["config.toml"] = .ok (.file (Text.encode
      ("[collector]\nenabled = true\nserver_url = \"" ++ url ++ "\"\n"))) := rfl
  have located := Files.locate_of_walk fault slash walked there
  simp only [Config.loadFrom, Files.readText_located located there, spelled]

theorem loadFrom_client_addressed :
    Config.loadFrom (addressed "https://h/") ⟨[], "config.toml"⟩ =
      .ok (addressedConfig "https://h/") ∧
    ∃ client, Client.ofSettings (addressedConfig "https://h/").collector = .ok client ∧
      client.KeepsTo "https://h/" := by
  have accepted : Config.loadFrom (addressed "https://h/") ⟨[], "config.toml"⟩ =
      .ok (addressedConfig "https://h/") := loadFrom_addressed (by decide)
  obtain ⟨-, -, -, url, client, given, made, -, -, -, keeps⟩ := loadFrom_client accepted rfl
  cases given
  exact ⟨accepted, client, made, keeps.mpr ⟨'h', by decide, by decide⟩⟩

/-- The slashes of the scheme are all that the address has. The client loses them, and sends the
token to a host with the name of its path. -/
theorem loadFrom_bare :
    Config.loadFrom (addressed "http://") ⟨[], "config.toml"⟩ = .ok (addressedConfig "http://") ∧
    (addressedConfig "http://").collector.enabled = true ∧
    Client.ofSettings (addressedConfig "http://").collector = .ok ⟨"http:"⟩ ∧
    isHttp "http:" = false ∧
    Url.ofText? "http://" = none ∧
    ∃ request, (Client.eraseData ⟨"http:"⟩ ⟨"token"⟩).Asks request ∧
      request.url.host = "network-requests" ∧ "Bearer token" ∈ request.authorization := by
  have parts : "http://".toList = scheme false ++ ':' :: ['/', '/'] := by decide
  have bare : IsBare ['/', '/'] := by simp [IsBare, isSlash]
  obtain ⟨nowhere, request, asks, leads, bearer⟩ := Client.elsewhere_of_isBare parts bare
  refine ⟨loadFrom_addressed (by decide), rfl, rfl, by decide, nowhere, request, asks, ?_, bearer⟩
  exact congrArg Destination.host leads

end Outbox
