import HandControl.ConfigValidation
import HandControl.PlainUrls

/-!
# The URLs of a relay

The server appends its endpoints to the configured text and reads the result as a URI. The client
library parses the text as a URL, corrects the scheme, appends its own endpoint and drops the query.
-/

namespace HandControl.RelayEndpoints

open ByteEncoding ConfigValidation PlainUrls ServerConfiguration UrlPaths UrlSyntax

def buildConnectUrl (libraries : UrlLibraries) (baseUrl : String) : Except String Url :=
  match libraries.parseUrl baseUrl with
  | none => .error s!"Invalid relay URL: {baseUrl}"
  | some (.other scheme _ _) => .error s!"Unsupported relay URL scheme: {String.ofList scheme}"
  | some (.web url) =>
    let scheme :=
      if url.scheme = "https".toList then "wss".toList
      else if url.scheme = "http".toList then "ws".toList
      else url.scheme
    let url := if url.scheme = scheme then url else url.setScheme scheme
    .ok
      { url with
        path := pushSegment (popIfEmpty url.path) "connect".toList
        query := none }

def registerUrl (config : RelayConfig) : Except String String :=
  match config.relayServerUrl with
  | none => .error "relay_server_url not configured"
  | some relayUrl => .ok (relayUrl ++ "/register")

def tunnelUrl (libraries : UrlLibraries) (config : RelayConfig)
    (tunnelId serverSecret : String) : Except String String :=
  match config.relayServerUrl with
  | none => .error "relay_server_url not configured"
  | some relayUrl =>
    .ok (relayUrl ++ "/tunnel/" ++ tunnelId ++ "?role=server&token=" ++
      libraries.byteSerialize serverSecret.toUTF8.toList)

def websocketUri (libraries : UrlLibraries) (text : String) : Option Uri :=
  (libraries.readUri text).filter fun uri =>
    decide (uri.scheme = "ws".toList ∨ uri.scheme = "wss".toList)

/-- A URL of the server that differs from the client's only in what follows the base. -/
def Agrees (libraries : UrlLibraries) (rules : UrlRules) (url : Url) (text endpoint : String) :
    Prop :=
  ∃ uri, websocketUri libraries text = some uri ∧ uri.scheme = url.scheme ∧
    rules.parseHost uri.host = some url.host ∧
    uri.port.or (defaultPort uri.scheme) = url.port.or (defaultPort url.scheme) ∧
    ∃ base, url.pathText = base ++ "/connect".toList ∧ uri.path = base ++ endpoint.toList

def EndpointsAgree (libraries : UrlLibraries) (rules : UrlRules) (config : RelayConfig) (url : Url)
    (tunnelId serverSecret : String) : Prop :=
  ∃ register tunnel, registerUrl config = .ok register ∧
    tunnelUrl libraries config tunnelId serverSecret = .ok tunnel ∧
      Agrees libraries rules url register "/register" ∧
      Agrees libraries rules url tunnel ("/tunnel/" ++ tunnelId)

/-- A lower-case websocket URL without query or fragment whose authority is one of a URI and
whose path the parser does not change. -/
structure SharedUrl (rules : UrlRules) (scheme authority path : List Char) : Prop where
  websocket : scheme = "ws".toList ∨ scheme = "wss".toList
  cut : Cut authority path []
  authority : rules.acceptsAuthority authority = true
  accepted : ∀ symbol ∈ path, rules.acceptsInPath symbol = true
  unchanged : UnchangedPath rules.readPath path

/-- The length of a secret in the query of a tunnel URL. -/
def formSize (bytes : Bytes) : Nat := (bytes.map fun byte => (formEncoded byte).length).sum

variable {libraries : UrlLibraries} {rules : UrlRules} {url : Url}
variable {scheme authority path tail base rest : List Char}
variable {text endpoint relayUrl : String} {uri : Uri}

theorem buildConnectUrl_ok {baseUrl : String}
    (built : buildConnectUrl libraries baseUrl = .ok url) :
    ∃ parsed, libraries.parseUrl baseUrl = some (.web parsed) ∧ url.host = parsed.host ∧
      url.path = pushSegment (popIfEmpty parsed.path) "connect".toList ∧
      (parsed.scheme = "ws".toList ∨ parsed.scheme = "wss".toList →
        url.scheme = parsed.scheme ∧ url.port = parsed.port) := by
  unfold buildConnectUrl at built
  split at built
  · cases built
  · cases built
  · rename_i parsed parsed_eq
    have made := Except.ok.inj built
    subst made
    refine ⟨parsed, parsed_eq, ?_, ?_, ?_⟩
    · dsimp only
      split_ifs <;> rfl
    · dsimp only
      split_ifs <;> rfl
    · intro websocket
      have kept : (if parsed.scheme = "https".toList then "wss".toList
          else if parsed.scheme = "http".toList then "ws".toList
          else parsed.scheme) = parsed.scheme := by
        rcases websocket with same | same
        · rw [same]
          decide
        · rw [same]
          decide
      dsimp only
      rw [kept, if_pos rfl]
      exact ⟨rfl, rfl⟩

section

variable (follows : Follows libraries rules) (documented : Documented rules)

include documented in
theorem visible_schemeText (websocket : scheme = "ws".toList ∨ scheme = "wss".toList)
    (known : rules.acceptsAuthority authority = true)
    (accepted : ∀ symbol ∈ path, rules.acceptsInPath symbol = true) :
    ∀ symbol ∈ schemeText scheme (authority ++ path), 0x21 ≤ symbol.toNat := by
  have front : ∀ symbol ∈ scheme ++ "://".toList, 0x21 ≤ symbol.toNat := by
    rcases websocket with rfl | rfl
    · decide
    · decide
  have shape : schemeText scheme (authority ++ path) =
      (scheme ++ "://".toList) ++ (authority ++ path) := by
    rw [List.append_assoc]
    rfl
  rw [shape]
  refine List.forall_mem_append.mpr ⟨front, List.forall_mem_append.mpr ⟨?_, ?_⟩⟩
  · exact fun symbol inside => (documented.authorities authority known symbol inside).1
  · exact fun symbol inside => documented.visible symbol (accepted symbol inside)

structure ConnectParts (rules : UrlRules) (scheme authority path : List Char) (url : Url) :
    Prop where
  hostText : HostText (splitHost false (dropCredentials authority)).1
  host : rules.parseHost (splitHost false (dropCredentials authority)).1 = some url.host
  port : readPort scheme (splitHost false (dropCredentials authority)).2 = some url.port
  scheme_eq : url.scheme = scheme
  pathText : url.pathText = pushedText rules.readPath path "connect".toList

include follows documented

theorem connectParts_of_built (websocket : scheme = "ws".toList ∨ scheme = "wss".toList)
    (cut : Cut authority path tail) {baseUrl : String}
    (clean : cleaned baseUrl.toList = schemeText scheme (authority ++ (path ++ tail)))
    (built : buildConnectUrl libraries baseUrl = .ok url) :
    ConnectParts rules scheme authority path url := by
  obtain ⟨_, parsed_eq, host_eq, path_eq, same⟩ := buildConnectUrl_ok built
  rw [follows.parses, parseUrl_websocket rules websocket clean, Option.map_eq_some_iff] at parsed_eq
  obtain ⟨_, read, found_eq⟩ := parsed_eq
  cases found_eq
  obtain ⟨nonempty, host, port, scheme_eq, segments⟩ := readWebUrl_cut cut read
  rw [← scheme_eq] at websocket
  obtain ⟨url_scheme, url_port⟩ := same websocket
  constructor
  · exact hostText_of_parseHost documented nonempty host
  · rw [host_eq]
    exact host
  · rw [url_port]
    exact port
  · exact url_scheme.trans scheme_eq
  · show joined url.path = _
    rw [path_eq, segments]
    rfl

/-- What the server appends: an endpoint and perhaps a query, of plain characters. -/
structure PlainEndpoint (endpoint tail : List Char) : Prop where
  starts : endpoint.head? = some '/'
  plain : ∀ symbol ∈ endpoint, symbol = '/' ∨ isPathChar symbol = true
  query : ∀ symbol ∈ tail.head?, isPathEnd symbol = true
  accepted : ∀ symbol ∈ tail.tail, isPathChar symbol = true

omit follows documented in
theorem cut_append {endpoint : List Char} (cut : Cut authority path [])
    (plain : PlainEndpoint endpoint tail) : Cut authority (path ++ endpoint) tail := by
  constructor
  · exact cut.nonempty
  · exact cut.bounded
  · intro symbol member
    cases path with
    | nil =>
      rw [List.nil_append, plain.starts] at member
      exact (Option.some.inj member).symm
    | cons => exact cut.starts symbol member
  · refine List.forall_mem_append.mpr ⟨cut.unended, fun symbol inside => ?_⟩
    rcases plain.plain symbol inside with rfl | pathChar
    · rfl
    · exact isPathChar_unreserved pathChar
  · exact plain.query

omit documented in
theorem websocketUri_eq_some :
    websocketUri libraries text = some uri ↔ readUri rules text.toList = some uri ∧
      (uri.scheme = "ws".toList ∨ uri.scheme = "wss".toList) := by
  simp [websocketUri, follows.reads, Option.filter_eq_some_iff]

theorem agrees_of_shared (shared : SharedUrl rules scheme authority path) {baseUrl : String}
    (shape : baseUrl.toList = schemeText scheme (authority ++ path))
    (built : buildConnectUrl libraries baseUrl = .ok url)
    (text_eq : text.toList = baseUrl.toList ++ (endpoint.toList ++ tail))
    (plain : PlainEndpoint endpoint.toList tail) (short : text.utf8ByteSize ≤ rules.longest) :
    Agrees libraries rules url text endpoint := by
  have visible := visible_schemeText documented shared.websocket shared.authority shared.accepted
  have clean : cleaned baseUrl.toList = schemeText scheme (authority ++ (path ++ [])) := by
    rw [shape, List.append_nil]
    exact cleaned_of_visible visible
  have parts := connectParts_of_built follows documented shared.websocket shared.cut clean built
  have whole :
      text.toList = schemeText scheme (authority ++ ((path ++ endpoint.toList) ++ tail)) := by
    rw [text_eq, shape]
    simp [schemeText]
  have accepted : ∀ symbol ∈ path ++ endpoint.toList, rules.acceptsInPath symbol = true := by
    refine List.forall_mem_append.mpr ⟨shared.accepted, fun symbol inside => ?_⟩
    rcases plain.plain symbol inside with rfl | pathChar
    · exact documented.slash
    · exact (documented.plain symbol pathChar).1
  have nonempty : path ++ endpoint.toList ≠ [] := by
    have started := plain.starts
    intro empty
    rw [List.append_eq_nil_iff] at empty
    rw [empty.2] at started
    cases started
  have read : readUri rules text.toList = some ⟨scheme, authority, path ++ endpoint.toList⟩ := by
    rw [whole]
    apply readUri_cut documented shared.websocket (cut_append shared.cut plain) shared.authority
      nonempty accepted
    · exact fun symbol inside => (documented.plain symbol (plain.accepted symbol inside)).2
    · rw [← whole, String.ofList_toList]
      exact short
  refine ⟨_, (websocketUri_eq_some follows).mpr ⟨read, shared.websocket⟩, parts.scheme_eq.symm,
    ?_, ?_, path, ?_, rfl⟩
  · rw [uri_host_eq parts.hostText]
    exact parts.host
  · rw [uri_port_eq parts.hostText parts.port, parts.scheme_eq]
    exact effective_port parts.port
  · rw [parts.pathText]
    exact pushedText_of_unchanged documented.paths shared.unchanged _

omit follows documented in
theorem register_plain : PlainEndpoint "/register".toList [] := by
  constructor
  · rfl
  · decide
  · simp
  · simp

omit follows documented in
theorem base_covers_authority (slashless : '/' ∉ authority)
    (whole : base ++ "/register".toList = schemeText scheme (authority ++ rest)) :
    base = scheme ++ ":/".toList ∨
      ∃ path, base = schemeText scheme (authority ++ path) ∧
        path ++ "/register".toList = rest := by
  have shape : schemeText scheme (authority ++ rest) = schemeText scheme authority ++ rest := by
    simp [schemeText]
  rw [shape, List.append_eq_append_iff] at whole
  rcases whole with ⟨extra, front_eq, register_eq⟩ | ⟨path, base_eq, rest_eq⟩
  · cases extra with
    | nil =>
      refine .inr ⟨[], ?_, register_eq⟩
      rw [List.append_nil] at front_eq ⊢
      exact front_eq.symm
    | cons slash more =>
      left
      obtain ⟨rfl, after_eq⟩ : '/' = slash ∧ "register".toList = more ++ rest :=
        List.cons.inj register_eq
      have free : '/' ∉ more := by
        intro member
        have inRegister : '/' ∈ "register".toList := by simp [after_eq, member]
        exact absurd inRegister (by decide)
      have split : base ++ '/' :: more = (scheme ++ ":/".toList) ++ '/' :: authority := by
        rw [← front_eq]
        simp [schemeText]
      -- The two texts have the same last slash.
      have more_eq : more = authority := by
        rw [← @after_last_mark base more '/' free, split, after_last_mark slashless]
      rw [more_eq] at split
      exact List.append_cancel_right split
  · refine .inr ⟨path, ?_, rest_eq.symm⟩
    rw [base_eq]
    simp [schemeText]

omit documented in
theorem buildConnectUrl_no_authority (websocket : scheme = "ws".toList ∨ scheme = "wss".toList)
    {baseUrl : String} (shape : baseUrl.toList = scheme ++ ":/".toList) (url : Url) :
    buildConnectUrl libraries baseUrl ≠ .ok url := by
  intro built
  obtain ⟨_, parsed_eq, _⟩ := buildConnectUrl_ok built
  have clean : cleaned baseUrl.toList = scheme ++ ':' :: ['/'] := by
    rw [shape]
    rcases websocket with rfl | rfl
    · decide
    · decide
  rw [follows.parses, parseUrl_websocket rules websocket clean] at parsed_eq
  cases parsed_eq

/-- A mark behind the path: the client drops it, and the server puts its endpoint behind it. -/
theorem no_query_of_agrees {mark : Char}
    (websocket : scheme = "ws".toList ∨ scheme = "wss".toList)
    (known : rules.acceptsAuthority authority = true) (cut : Cut authority path [mark])
    (accepted : ∀ symbol ∈ path, rules.acceptsInPath symbol = true)
    {baseUrl : String}
    (shape : baseUrl.toList = schemeText scheme (authority ++ (path ++ mark :: rest)))
    (built : buildConnectUrl libraries baseUrl = .ok url)
    (client : url.pathText = base ++ "/connect".toList)
    (server : (if path = [] then ['/'] else path) = base ++ "/register".toList) : False := by
  have mark_end : isPathEnd mark = true := cut.ends mark rfl
  have visible : ∀ symbol ∈ schemeText scheme (authority ++ path) ++ [mark],
      0x21 ≤ symbol.toNat := by
    rw [List.forall_mem_append, List.forall_mem_singleton]
    refine ⟨visible_schemeText documented websocket known accepted, ?_⟩
    simp only [isPathEnd, Bool.or_eq_true, beq_iff_eq] at mark_end
    rcases mark_end with rfl | rfl
    · decide
    · decide
  obtain ⟨rest', clean, _⟩ := @cleaned_append _ rest _ visible
  have regroup (behind : List Char) : schemeText scheme (authority ++ path) ++ mark :: behind =
      schemeText scheme (authority ++ (path ++ mark :: behind)) := by
    simp [schemeText]
  rw [regroup, regroup, ← shape] at clean
  have cut' : Cut authority path (mark :: rest') :=
    ⟨cut.nonempty, cut.bounded, cut.starts, cut.unended, cut.ends⟩
  have parts := connectParts_of_built follows documented websocket cut' clean built
  rw [parts.pathText] at client
  by_cases empty : path = []
  · rw [if_pos empty] at server
    have lengths := congrArg List.length server
    simp at lengths
  · rw [if_neg empty] at server
    have path_eq : path = base ++ '/' :: "register".toList := server
    have starts : ∀ symbol ∈ base.head?, symbol = '/' := by
      intro symbol member
      apply cut.starts symbol
      rw [path_eq, List.head?_append, Option.mem_def.mp member]
      rfl
    rw [path_eq] at client
    exact pushedText_ne documented.paths starts (by decide) (by decide) _ client

theorem shared_of_agrees {baseUrl : String}
    (built : buildConnectUrl libraries baseUrl = .ok url)
    (agrees : Agrees libraries rules url (baseUrl ++ "/register") "/register") :
    ∃ scheme authority path, baseUrl.toList = schemeText scheme (authority ++ path) ∧
      SharedUrl rules scheme authority path := by
  obtain ⟨uri, found, _, _, _, base, client, server⟩ := agrees
  obtain ⟨read, websocket⟩ := (websocketUri_eq_some follows).mp found
  obtain ⟨_, known, path, tail, whole, cut, path_eq, accepted⟩ := readUri_parts documented read
  rw [String.toList_append] at whole
  have slashless : '/' ∉ uri.authority := fun member =>
    absurd (cut.bounded '/' member).1 (by decide)
  rcases base_covers_authority slashless whole with short | ⟨given, base_eq, given_eq⟩
  · exact absurd built (buildConnectUrl_no_authority follows websocket short url)
  cases tail with
  | cons mark =>
    exfalso
    have mark_end : isPathEnd mark = true := cut.ends mark rfl
    have cut_mark : Cut uri.authority path [mark] :=
      ⟨cut.nonempty, cut.bounded, cut.starts, cut.unended, cut.ends⟩
    have outside : mark ∉ "/register".toList := by
      intro inRegister
      have never : ∀ symbol ∈ "/register".toList, isPathEnd symbol = false := by decide
      rw [never mark inRegister] at mark_end
      cases mark_end
    rw [List.append_eq_append_iff] at given_eq
    rcases given_eq with ⟨_, _, register_eq⟩ | ⟨behind, given_path, rest_eq⟩
    · exact absurd (by simp [register_eq]) outside
    · cases behind with
      | nil =>
        rw [List.nil_append] at rest_eq
        exact absurd (by simp [← rest_eq]) outside
      | cons first =>
        have first_eq : mark = first := (List.cons.inj rest_eq).1
        rw [given_path, ← first_eq] at base_eq
        exact no_query_of_agrees follows documented websocket known cut_mark accepted base_eq built
          client (path_eq.symm.trans server)
  | nil =>
    rw [List.append_nil] at given_eq
    have accepted_given : ∀ symbol ∈ given, rules.acceptsInPath symbol = true :=
      fun symbol member => accepted symbol (given_eq ▸ List.mem_append_left _ member)
    have cut_given : Cut uri.authority given [] := by
      refine ⟨cut.nonempty, cut.bounded, ?_, ?_, by simp⟩
      · intro symbol member
        apply cut.starts
        rw [← given_eq, List.head?_append, Option.mem_def.mp member]
        rfl
      · intro symbol member
        exact cut.unended symbol (given_eq ▸ List.mem_append_left _ member)
    have clean : cleaned baseUrl.toList =
        schemeText uri.scheme (uri.authority ++ (given ++ [])) := by
      rw [base_eq, List.append_nil]
      exact cleaned_of_visible (visible_schemeText documented websocket known accepted_given)
    have parts := connectParts_of_built follows documented websocket cut_given clean built
    have path_ne : path ≠ [] := by
      rw [← given_eq]
      simp
    rw [if_neg path_ne, ← given_eq] at path_eq
    have base_path : base = given :=
      List.append_cancel_right (server.symm.trans path_eq)
    rw [parts.pathText, base_path] at client
    exact ⟨uri.scheme, uri.authority, given, base_eq,
      ⟨websocket, cut_given, known, accepted_given,
        unchanged_of_pushedText documented.paths client⟩⟩

theorem short_of_agrees (agrees : Agrees libraries rules url text endpoint) :
    text.utf8ByteSize ≤ rules.longest := by
  obtain ⟨_, found, _⟩ := agrees
  have short := (readUri_parts documented ((websocketUri_eq_some follows).mp found).1).1
  rwa [String.ofList_toList] at short

end

theorem formEncoded_plain : ∀ code : Fin 256,
    (∀ symbol ∈ formEncoded (UInt8.ofNat code), isPathChar symbol = true) ∧
      (String.ofList (formEncoded (UInt8.ofNat code))).utf8ByteSize =
        (formEncoded (UInt8.ofNat code)).length := by
  decide +kernel

theorem formEncoded_accepted (bytes : Bytes) :
    ∀ symbol ∈ bytes.flatMap formEncoded, isPathChar symbol = true := by
  intro symbol member
  obtain ⟨byte, _, inside⟩ := List.mem_flatMap.mp member
  have plain := (formEncoded_plain ⟨byte.toNat, byte.toNat_lt⟩).1 symbol
  simp only [UInt8.ofNat_toNat] at plain
  exact plain inside

theorem utf8ByteSize_formEncoded (bytes : Bytes) :
    (String.ofList (bytes.flatMap formEncoded)).utf8ByteSize = formSize bytes := by
  induction bytes with
  | nil => rfl
  | cons byte rest ih =>
    have plain := (formEncoded_plain ⟨byte.toNat, byte.toNat_lt⟩).2
    simp only [UInt8.ofNat_toNat] at plain
    rw [List.flatMap_cons, String.ofList_append, String.utf8ByteSize_append, ih, plain]
    simp [formSize]

theorem tunnel_plain {tunnelId : String}
    (plainId : ∀ symbol ∈ tunnelId.toList, isPathChar symbol = true) (bytes : Bytes) :
    PlainEndpoint ("/tunnel/" ++ tunnelId).toList
      ("?role=server&token=".toList ++ bytes.flatMap formEncoded) := by
  have front : ∀ symbol ∈ "/tunnel/".toList, symbol = '/' ∨ isPathChar symbol = true := by decide
  constructor
  · rw [String.toList_append]
    rfl
  · rw [String.toList_append, List.forall_mem_append]
    exact ⟨front, fun symbol inside => .inr (plainId symbol inside)⟩
  · intro symbol member
    cases member
    rfl
  · have fixed : ∀ symbol ∈ "role=server&token=".toList, isPathChar symbol = true := by decide
    exact List.forall_mem_append.mpr ⟨fixed, formEncoded_accepted bytes⟩

def isNameSymbol (symbol : Char) : Bool :=
  symbol.isAlphanum || symbol == '-' || symbol == '.' || symbol == '_'

/-- Readers that know host names, and paths without anything to resolve or to encode. -/
def nameRules : UrlRules where
  parseHost text :=
    if text ≠ [] ∧ text.all isNameSymbol = true then some (text.map Char.toLower) else none
  readPath := splitPath
  readTail tail := (if tail.head? = some '?' then some tail.tail else none, none)
  readOther _ _ := some (none, none)
  acceptsScheme _ := true
  acceptsAuthority text := text.all isPathChar
  acceptsInPath symbol := symbol == '/' || isPathChar symbol
  acceptsInQuery symbol := symbol == '/' || isPathChar symbol
  longest := 65534

theorem visible_of_pathChar {symbol : Char} (plain : isPathChar symbol = true) :
    0x21 ≤ symbol.toNat := by
  simp only [isPathChar, Bool.or_eq_true, beq_iff_eq, Bool.and_eq_true, decide_eq_true_eq] at plain
  omega

theorem nameRules_documented : Documented nameRules where
  paths := documentedPaths_splitPath
  brackets text host parsed bracket := by
    simp only [nameRules] at parsed
    split_ifs at parsed with named
    have symbols := List.all_eq_true.mp named.2
    rcases bracket with opening | closing
    · exact absurd (symbols _ opening) (by decide)
    · exact absurd (symbols _ closing) (by decide)
  schemes := ⟨rfl, rfl⟩
  authorities text accepted symbol member := by
    have plain := List.all_eq_true.mp accepted symbol member
    refine ⟨visible_of_pathChar plain, ?_⟩
    rintro rfl
    exact absurd plain (by decide)
  visible symbol accepted := by
    rcases Bool.or_eq_true_iff.mp accepted with slash | plain
    · rw [beq_iff_eq.mp slash]
      decide
    · exact visible_of_pathChar plain
  slash := rfl
  plain symbol plain := by simp [nameRules, plain]

def relayConfig (relayUrl : String) : Config :=
  let config := Document.empty.withDefaults false
  { config with
    relay :=
      { config.relay with
        enabled := true
        relayServerUrl := some relayUrl
        relayAuthSecret := some "secret" } }

def baseUrl : String := "wss://relay.example:8443/base"

theorem base_url_shared :
    SharedUrl nameRules "wss".toList "relay.example:8443".toList "/base".toList := by
  constructor
  · exact .inr rfl
  · exact ⟨by decide, by decide, by simp, by decide, by simp⟩
  · decide +kernel
  · decide +kernel
  · exact .inr ⟨by decide +kernel, by decide +kernel⟩

/-- A validated configuration for which the client has a URL that the server's do not agree
with. -/
def Diverges (relayUrl : String) : Prop :=
  (∀ crate, validateConfig crate (relayConfig relayUrl) = .ok ()) ∧
    ∃ url, buildConnectUrl nameRules.libraries relayUrl = .ok url ∧
      ¬ EndpointsAgree nameRules.libraries nameRules (relayConfig relayUrl).relay url "t1" "s"

section

variable (valid : ∀ crate, validateConfig crate (relayConfig relayUrl) = .ok ())
  (built : buildConnectUrl nameRules.libraries relayUrl = .ok url)

include valid built

theorem diverges_of_refused
    (refused : websocketUri nameRules.libraries (relayUrl ++ "/register") = none) :
    Diverges relayUrl := by
  refine ⟨valid, url, built, ?_⟩
  rintro ⟨_, _, register_made, _, agrees, _⟩
  cases register_made
  obtain ⟨_, found, _⟩ := agrees
  rw [refused] at found
  cases found

theorem diverges_of_path
    (read : websocketUri nameRules.libraries (relayUrl ++ "/register") = some uri)
    (client : url.pathText = "/connect".toList) (server : uri.path ≠ "/register".toList) :
    Diverges relayUrl := by
  refine ⟨valid, url, built, ?_⟩
  rintro ⟨_, _, register_made, _, agrees, _⟩
  cases register_made
  obtain ⟨found, found_eq, _, _, _, base, client_eq, server_eq⟩ := agrees
  rw [read] at found_eq
  cases found_eq
  rw [client] at client_eq
  have lengths := congrArg List.length client_eq
  rw [List.length_append] at lengths
  have empty : base = [] := List.eq_nil_of_length_eq_zero (by omega)
  rw [empty] at server_eq
  exact server server_eq

end

end HandControl.RelayEndpoints
