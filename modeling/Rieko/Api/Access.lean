import Rieko.Findings.StateDigest
import Rieko.Lib.AsciiText
import Rieko.Lib.StatefulResult
import Rieko.Lib.Text

namespace Rieko

open Identity (utf8)

inductive HttpMethod where
  | get | head | post
  | other (name : String)
deriving DecidableEq, Repr

/-- A request as the server has parsed it. The names of headers are in lower case and may come more than once. -/
structure HttpRequest where
  method : HttpMethod
  path : String
  query : String
  headers : List (String × List UInt8)
  body : List UInt8
deriving DecidableEq, Repr

def maxBodyBytes : Nat := 2^20

def webhookPath : String := "/api/v1/integrations/btcpay/webhook"

namespace HttpRequest

def header (request : HttpRequest) (name : String) : Option (List UInt8) :=
  (request.headers.find? fun field => field.1 = name).map (·.2)

end HttpRequest

def headerByte (byte : UInt8) : Bool := (32 ≤ byte && byte ≠ 127) || byte = 9

def visibleByte (byte : UInt8) : Bool := (32 ≤ byte && byte < 127) || byte = 9

def headerText (value : List UInt8) : Option (List Char) :=
  if value.all visibleByte then some (AsciiText.chars value) else none

def bearerScheme : List Char := "Bearer ".toList

def providedToken (request : HttpRequest) : List UInt8 :=
  match ((request.header "authorization").bind headerText).bind (·.dropPrefix? bearerScheme) with
  | some token => utf8 (.ofList (Text.trim token))
  | none => []

def tokenMatches (expected : String) (provided : List UInt8) : Bool :=
  !Text.isBlank expected && utf8 expected == provided

/-- Whether a request gets past the authentication. The webhook route has one of its own. -/
def requireAuth (authToken : Option String) (request : HttpRequest) : Bool :=
  request.path = webhookPath || authToken.all fun token => tokenMatches token (providedToken request)

inductive RiekoApiError where
  | invalidAuthToken
deriving DecidableEq, Repr

def RiekoApiError.toString : RiekoApiError → String
  | .invalidAuthToken => "bearer token cannot be empty"

def trimmed (text : String) : String := .ofList (Text.trim text.toList)

def withAuth (token : String) : Except RiekoApiError String :=
  if trimmed token = "" then .error .invalidAuthToken else .ok (trimmed token)

def bearerAuth (token : String) : Option (List UInt8) :=
  let value := utf8 ("Bearer " ++ token)
  if value.all headerByte then some value else none

def textLines (text : String) : List (List Char) :=
  let parts := text.toList.splitOn '\n'
  (parts.dropLast.map fun line => if line.getLast? = some '\r' then line.dropLast else line) ++
    parts.getLast?.toList.filter (!·.isEmpty)

structure SecretFile where
  path : String
  contents : Except String String

def secretLine (contents : String) : Option (List Char) :=
  ((textLines contents).map Text.trim).find? (!·.isEmpty)

def loadSecret (label : String) (file : SecretFile) : Except String String :=
  match file.contents with
  | .error _ => .error s!"reading {label} file {file.path}"
  | .ok contents =>
    match secretLine contents with
    | some line => .ok (.ofList line)
    | none => .error s!"{label} file is empty"

inductive EnvToken where
  | notPresent
  | notUnicode
  | value (text : String)
deriving DecidableEq, Repr

/-- How both programs come by their token, each with its own name for the file. -/
def loadTokenFor (label : String) (file : Option SecretFile) (env : EnvToken) : Except String (Option String) :=
  match file with
  | some file => (loadSecret label file).map some
  | none =>
    match env with
    | .value text => if trimmed text = "" then .error "RIEKO_API_TOKEN is empty" else .ok (some (trimmed text))
    | .notPresent => .ok none
    | .notUnicode => .error "RIEKO_API_TOKEN is not valid Unicode"

namespace Agent

def loadToken : Option SecretFile → EnvToken → Except String (Option String) := loadTokenFor "token"

end Agent

namespace ApiClient

def loadToken : Option SecretFile → EnvToken → Except String (Option String) := loadTokenFor "API token"

end ApiClient

inductive IpAddr where
  | v4 (octets : Vector UInt8 4)
  | v6 (segments : Vector UInt16 8)
deriving DecidableEq, Repr

def IpAddr.isLoopback : IpAddr → Bool
  | .v4 octets => octets[0] = 127
  | .v6 segments => segments = #v[0, 0, 0, 0, 0, 0, 0, 1]

structure SocketAddr where
  ip : IpAddr
  port : UInt16
  text : String
deriving DecidableEq, Repr

namespace Agent

def enforceBindingPolicy (addr : SocketAddr) (allowExternal : Bool) (token : Option String) : Except String Unit :=
  if addr.ip.isLoopback then .ok ()
  else if !allowExternal then
    .error (s!"refusing to bind {addr.text}: non-loopback address requires --allow-external " ++
      "(external exposure also requires a bearer token)")
  else if token.all Text.isBlank then
    .error (s!"refusing to bind {addr.text}: external exposure requires a bearer token " ++
      "(set --token-file or RIEKO_API_TOKEN)")
  else .ok ()

/-- Where a token is from: the first line of the file that is not blank, or without a file the variable, trimmed. -/
inductive Supplies : Option SecretFile → EnvToken → String → Prop where
  | file {secret : SecretFile} {env : EnvToken} {contents : String} {before after : List (List Char)} {line : List Char}
    (read : secret.contents = .ok contents) (lines : textLines contents = before ++ line :: after)
    (blank : ∀ earlier ∈ before, Text.trim earlier = []) (filled : Text.trim line ≠ []) :
    Supplies (some secret) env (.ofList (Text.trim line))
  | variable {text : String} (filled : trimmed text ≠ "") : Supplies none (.value text) (trimmed text)

def authToken (addr : SocketAddr) (allowExternal : Bool) (file : Option SecretFile) (env : EnvToken) :
    Except String (Option String) := do
  let token ← loadToken file env
  enforceBindingPolicy addr allowExternal token
  match token with
  | some token => ((withAuth token).mapError (·.toString)).map some
  | none => return none

end Agent

section Tokens

open AsciiText

variable {token text : String} {request : HttpRequest} {value : List UInt8} {chars : List Char}

def VisibleText (text : String) : Prop := (bytes text.toList).all visibleByte = true

/-- The request has the token in its first authorization header, with nothing but spaces and tabs around it. -/
structure Presents (token : String) (request : HttpRequest) : Prop where
  visible : VisibleText token
  sent : ∃ gap gap', (∀ c ∈ gap ++ gap', c = ' ' ∨ c = '\t') ∧
    request.header "authorization" = some (bytes (bearerScheme ++ (gap ++ (token.toList ++ gap'))))

structure Loaded (token : String) : Prop where
  filled : token.toList ≠ []
  ends : Text.Trimmed token.toList

theorem utf8_eq (text : String) : utf8 text = bytes text.toList := bytes_eq text

theorem visibleByte_narrow (byte : UInt8) (visible : visibleByte byte = true) : byte.toNat < 128 := by
  simp only [visibleByte, Bool.or_eq_true, Bool.and_eq_true, decide_eq_true_eq] at visible
  rcases visible with ⟨-, below⟩ | rfl
  · have small : byte.toNat < (127 : UInt8).toNat := below
    exact small.trans (by decide)
  · decide

theorem headerText_some : headerText value = some chars ↔ value = bytes chars ∧ value.all visibleByte = true := by
  unfold headerText
  split
  next visible =>
    have narrow : ∀ byte ∈ value, byte.toNat < 128 :=
      fun byte member => visibleByte_narrow byte (List.all_eq_true.mp visible byte member)
    constructor
    · intro read
      rw [← Option.some.inj read]
      exact ⟨(bytes_chars narrow).symm, visible⟩
    · rintro ⟨rfl, -⟩
      rw [chars_bytes (ascii_of_all visibleByte_narrow visible)]
  next hidden =>
    constructor
    · intro read
      cases read
    · rintro ⟨-, visible⟩
      exact absurd visible hidden

theorem visible_append {more : List Char} : (bytes (chars ++ more)).all visibleByte =
    ((bytes chars).all visibleByte && (bytes more).all visibleByte) := by
  rw [bytes_append, List.all_append]

theorem blank_visible {c : Char} (blank : Text.isWhitespace c = true)
    (visible : (bytes [c]).all visibleByte = true) : c = ' ' ∨ c = '\t' := by
  have ascii : isAscii c = true := by simpa using ascii_of_all visibleByte_narrow visible
  have small : c.toNat < 128 := of_decide_eq_true ascii
  have number := toNat_ofNat_ascii ascii
  have shown : visibleByte (UInt8.ofNat c.toNat) = true := by
    rw [bytes_cons, encode_ascii ascii] at visible
    simpa using visible
  simp only [visibleByte, Bool.or_eq_true, Bool.and_eq_true, decide_eq_true_eq] at shown
  simp only [Text.isWhitespace, Bool.or_eq_true, Bool.and_eq_true, decide_eq_true_eq] at blank
  have code : c.toNat = 32 ∨ c.toNat = 9 := by
    rcases shown with ⟨least, -⟩ | tab
    · have least' : (32 : UInt8).toNat ≤ (UInt8.ofNat c.toNat).toNat := least
      rw [number] at least'
      change 32 ≤ c.toNat at least'
      omega
    · have nine := congrArg UInt8.toNat tab
      rw [number] at nine
      exact .inr nine
  rcases code with space | tab
  · exact .inl (Char.toNat_inj.mp space)
  · exact .inr (Char.toNat_inj.mp tab)

theorem gap_blank (plain : ∀ c ∈ chars, c = ' ' ∨ c = '\t') (c : Char) (member : c ∈ chars) :
    Text.isWhitespace c = true := by
  rcases plain c member with rfl | rfl <;> decide

theorem gap_visible (plain : ∀ c ∈ chars, c = ' ' ∨ c = '\t') : (bytes chars).all visibleByte = true := by
  have space : (String.utf8EncodeChar ' ').all visibleByte = true := by decide
  have tab : (String.utf8EncodeChar '\t').all visibleByte = true := by decide
  refine List.all_eq_true.mpr fun byte member => ?_
  obtain ⟨c, among, within⟩ := List.mem_flatMap.mp member
  rcases plain c among with rfl | rfl
  · exact List.all_eq_true.mp space byte within
  · exact List.all_eq_true.mp tab byte within

theorem Loaded.not_blank (loaded : Loaded token) : Text.isBlank token = false := by
  cases first : token.toList with
  | nil => exact absurd first loaded.filled
  | cons c rest =>
    refine Text.not_isBlank_of_mem (c := c) ?_ (loaded.ends.head c (by rw [first]; rfl))
    rw [first]
    exact List.mem_cons_self

theorem dropPrefix_iff {rest : List Char} :
    chars.dropPrefix? bearerScheme = some rest ↔ chars = bearerScheme ++ rest := by
  simp [List.dropPrefix?_eq_some_iff]

theorem providedToken_of_presents (loaded : Loaded token) (presents : Presents token request) :
    providedToken request = utf8 token := by
  obtain ⟨gap, gap', blank, sent⟩ := presents.sent
  have visible : (bytes (bearerScheme ++ (gap ++ (token.toList ++ gap')))).all visibleByte = true := by
    rw [visible_append, visible_append, visible_append, presents.visible,
      gap_visible fun c member => blank c (List.mem_append_left _ member),
      gap_visible fun c member => blank c (List.mem_append_right _ member)]
    decide
  have read : headerText (bytes (bearerScheme ++ (gap ++ (token.toList ++ gap')))) = some _ :=
    headerText_some.mpr ⟨rfl, visible⟩
  unfold providedToken
  rw [sent, Option.bind_some, read, Option.bind_some, dropPrefix_iff.mpr rfl]
  show utf8 (.ofList (Text.trim (gap ++ (token.toList ++ gap')))) = _
  rw [Text.trim_pad loaded.ends loaded.filled (gap_blank blank), String.ofList_toList]

theorem presents_of_providedToken (loaded : Loaded token) (same : providedToken request = utf8 token) :
    Presents token request := by
  unfold providedToken at same
  cases sent : request.header "authorization" with
  | none =>
    rw [sent] at same
    exact absurd (bytes_eq_nil.mp ((utf8_eq token).symm.trans same.symm)) loaded.filled
  | some value =>
    cases read : headerText value with
    | none =>
      rw [sent, Option.bind_some, read] at same
      exact absurd (bytes_eq_nil.mp ((utf8_eq token).symm.trans same.symm)) loaded.filled
    | some chars =>
      rw [sent, Option.bind_some, read, Option.bind_some] at same
      obtain ⟨rfl, visible⟩ := headerText_some.mp read
      cases scheme : chars.dropPrefix? bearerScheme with
      | none =>
        rw [scheme] at same
        exact absurd (bytes_eq_nil.mp ((utf8_eq token).symm.trans same.symm)) loaded.filled
      | some rest =>
        rw [scheme] at same
        obtain rfl := dropPrefix_iff.mp scheme
        have named : Text.trim rest = token.toList := by
          rw [← Identity.utf8_inj.mp same, String.toList_ofList]
        obtain ⟨gap, gap', whole, blank⟩ := Text.trim_split rest
        rw [named] at whole
        subst whole
        rw [visible_append, visible_append, visible_append] at visible
        simp only [Bool.and_eq_true] at visible
        obtain ⟨-, before, shown, after⟩ := visible
        have plain (text : List Char) (readable : (bytes text).all visibleByte = true)
            (white : ∀ c ∈ text, Text.isWhitespace c = true) (c : Char) (member : c ∈ text) : c = ' ' ∨ c = '\t' := by
          refine blank_visible (white c member) ?_
          obtain ⟨front, back, rfl⟩ := List.append_of_mem member
          rw [visible_append, ← List.singleton_append, visible_append] at readable
          simp only [Bool.and_eq_true] at readable
          exact readable.2.1
        refine ⟨shown, gap, gap', fun c member => ?_, sent⟩
        rcases List.mem_append.mp member with first | last
        · exact plain gap before (fun c member => blank c (List.mem_append_left _ member)) c first
        · exact plain gap' after (fun c member => blank c (List.mem_append_right _ member)) c last

/-- Past the authentication of a loaded token come exactly the requests that present it, and those of the webhook
    route. -/
theorem requireAuth_iff (loaded : Loaded token) :
    requireAuth (some token) request = true ↔ request.path = webhookPath ∨ Presents token request := by
  unfold requireAuth tokenMatches
  rw [Option.all_some, loaded.not_blank, Bool.not_false, Bool.true_and, Bool.or_eq_true, decide_eq_true_eq, beq_iff_eq]
  refine or_congr_right ⟨fun same => presents_of_providedToken loaded same.symm,
    fun presents => (providedToken_of_presents loaded presents).symm⟩

theorem trimmed_loaded (filled : trimmed text ≠ "") : Loaded (trimmed text) := by
  have chars : (trimmed text).toList = Text.trim text.toList := String.toList_ofList
  refine ⟨fun empty => filled ?_, by rw [chars]; exact Text.trimmed_trim _⟩
  unfold trimmed
  rw [chars.symm.trans empty]

theorem loadTokenFor_loaded {label : String} {file : Option SecretFile} {env : EnvToken}
    (read : loadTokenFor label file env = .ok (some token)) : Loaded token := by
  cases file with
  | none =>
    cases env with
    | notPresent | notUnicode => cases read
    | value text =>
      simp only [loadTokenFor] at read
      split at read
      next => cases read
      next filled =>
        cases read
        exact trimmed_loaded filled
  | some file =>
    simp only [loadTokenFor, loadSecret] at read
    cases contents : file.contents with
    | error e =>
      rw [contents] at read
      cases read
    | ok contents' =>
      rw [contents] at read
      dsimp only at read
      cases found : secretLine contents' with
      | none =>
        rw [found] at read
        cases read
      | some line =>
        rw [found] at read
        cases read
        have filled := List.find?_some found
        obtain ⟨whole, -, rfl⟩ := List.mem_map.mp (List.mem_of_find?_eq_some found)
        refine ⟨?_, by rw [String.toList_ofList]; exact Text.trimmed_trim whole⟩
        rw [String.toList_ofList]
        intro empty
        rw [empty] at filled
        cases filled

theorem withAuth_of_loaded (loaded : Loaded token) : withAuth token = .ok token := by
  have padded := @Text.trim_pad _ [] [] loaded.ends loaded.filled (by simp)
  have same : trimmed token = token := by
    unfold trimmed
    rw [show Text.trim token.toList = token.toList by simpa using padded, String.ofList_toList]
  have filled : token ≠ "" := fun empty => loaded.filled (by rw [empty]; rfl)
  unfold withAuth
  rw [same, if_neg filled]

namespace Agent

variable {addr : SocketAddr} {allowExternal : Bool} {file : Option SecretFile} {env : EnvToken} {auth : Option String}

theorem authToken_ok (started : authToken addr allowExternal file env = .ok auth) :
    loadToken file env = .ok auth ∧ enforceBindingPolicy addr allowExternal auth = .ok () := by
  unfold authToken at started
  obtain ⟨token, loads, started⟩ := StatefulResult.except_bind_ok.mp started
  obtain ⟨u, within, started⟩ := StatefulResult.except_bind_ok.mp started
  cases token with
  | none =>
    cases started
    exact ⟨loads, within⟩
  | some token =>
    dsimp only at started
    rw [withAuth_of_loaded (loadTokenFor_loaded loads)] at started
    cases started
    exact ⟨loads, within⟩

theorem enforceBindingPolicy_ok {token : Option String} :
    enforceBindingPolicy addr allowExternal token = .ok () ↔ addr.ip.isLoopback = true ∨
      allowExternal = true ∧ ∃ text, token = some text ∧ Text.isBlank text = false := by
  unfold enforceBindingPolicy
  cases addr.ip.isLoopback with
  | true => simp
  | false => cases allowExternal <;> cases token <;> simp [Option.all]

theorem loadSecret_supplies {label : String} {secret : SecretFile} {token : String}
    (loads : loadSecret label secret = .ok token) : Supplies (some secret) env token := by
  unfold loadSecret secretLine at loads
  split at loads
  · cases loads
  next contents read =>
    split at loads
    next line found =>
      obtain ⟨filled, before, after, lines, blank⟩ := List.find?_eq_some_iff_append.mp found
      obtain ⟨earlier, later, whole, rfl, trims⟩ := List.map_eq_append_iff.mp lines
      obtain ⟨raw, after, rfl, rfl, rfl⟩ := List.map_eq_cons_iff.mp trims
      cases loads
      refine .file read whole (fun other member => ?_) (by simpa using filled)
      simpa using blank (Text.trim other) (List.mem_map_of_mem member)
    · cases loads

theorem loadToken_supplies {token : String} (loads : loadToken file env = .ok (some token)) :
    Supplies file env token := by
  unfold loadToken loadTokenFor at loads
  cases file with
  | none =>
    cases env with
    | notPresent => cases loads
    | notUnicode => cases loads
    | value text =>
      dsimp only at loads
      split at loads
      · cases loads
      next filled =>
        cases loads
        exact .variable filled
  | some secret =>
    cases read : loadSecret "token" secret with
    | error e =>
      simp only [read] at loads
      cases loads
    | ok line =>
      simp only [read] at loads
      cases loads
      exact loadSecret_supplies read

theorem loadToken_same {token : Option String} (loads : loadToken file env = .ok token) :
    ApiClient.loadToken file env = .ok token := by
  unfold loadToken ApiClient.loadToken loadTokenFor loadSecret at *
  cases file with
  | none => exact loads
  | some file =>
    cases contents : file.contents with
    | error e =>
      simp only [contents] at loads
      cases loads
    | ok text =>
      simp only [contents] at loads ⊢
      cases found : secretLine text with
      | none =>
        rw [found] at loads
        cases loads
      | some line =>
        rw [found] at loads
        exact loads

end Agent

theorem bytes_inj {more : List Char} (same : bytes chars = bytes more) : chars = more := by
  have texts : utf8 (.ofList chars) = utf8 (.ofList more) := by
    rw [utf8_eq, utf8_eq, String.toList_ofList, String.toList_ofList]
    exact same
  exact String.ofList_inj.mp (Identity.utf8_inj.mp texts)

theorem bearerAuth_some (sends : bearerAuth token = some value) : value = bytes (bearerScheme ++ token.toList) := by
  simp only [bearerAuth] at sends
  split at sends
  · rw [← Option.some.inj sends, utf8_eq, String.toList_append]
    rfl
  · cases sends

end Tokens

open Agent in
/-- An agent asks for the token that it loaded, if any. One that started on an address other than the loopback was
    told to allow it and asks for a token. Past the authentication come the requests that present this token and those
    of the webhook route, and all of them only where neither a file nor the environment has a token. -/
theorem exposure_authenticated {addr : SocketAddr} {allowExternal : Bool} {file : Option SecretFile} {env : EnvToken}
    {auth : Option String} (started : authToken addr allowExternal file env = .ok auth) :
    (loadToken file env = .ok auth ∧ ∀ token, auth = some token → Supplies file env token) ∧
    (addr.ip.isLoopback = false → allowExternal = true ∧ auth.isSome = true) ∧
    (auth = none → file.isNone = true ∧ env = .notPresent) ∧
    ∀ request, requireAuth auth request = true ↔
      request.path = webhookPath ∨ ∀ token, auth = some token → Presents token request := by
  obtain ⟨loads, within⟩ := authToken_ok started
  refine ⟨⟨loads, fun token same => ?_⟩, fun exposed => ?_, ?_, fun request => ?_⟩
  · subst same
    exact loadToken_supplies loads
  · rcases enforceBindingPolicy_ok.mp within with loopback | ⟨allowed, token, rfl, -⟩
    · rw [exposed] at loopback
      cases loopback
    · exact ⟨allowed, rfl⟩
  · rintro rfl
    cases file with
    | none =>
      refine ⟨rfl, ?_⟩
      cases env with
      | notPresent => rfl
      | notUnicode => cases loads
      | value text =>
        simp only [loadToken, loadTokenFor] at loads
        split at loads <;> cases loads
    | some file =>
      simp only [loadToken, loadTokenFor] at loads
      cases secret : loadSecret "token" file <;> rw [secret] at loads <;> cases loads
  · cases auth with
    | none => simp [requireAuth]
    | some token =>
      rw [requireAuth_iff (loadTokenFor_loaded loads)]
      simp

/-- An agent on every address, with a token that stands on the second line of its file. -/
theorem exposure_authenticated_everywhere :
    let file : SecretFile := ⟨"token", .ok "\n secret \r\nother\n"⟩
    Agent.Supplies (some file) .notPresent "secret" ∧
      ∀ request, requireAuth (some "secret") request = true ↔
        request.path = webhookPath ∨ ∀ token, some "secret" = some token → Presents token request := by
  intro file
  let addr : SocketAddr := ⟨.v4 #v[0, 0, 0, 0], 8080, "0.0.0.0:8080"⟩
  have started : Agent.authToken addr true (some file) .notPresent = .ok (some "secret") := by decide
  obtain ⟨⟨-, supplied⟩, -, -, admits⟩ := exposure_authenticated started
  exact ⟨supplied "secret" rfl, admits⟩

/-- A client comes past the authentication of an agent exactly if its token is the agent's and every byte of it may be
    read in a header. From one file and environment both load the same token. -/
theorem client_admitted_iff {addr : SocketAddr} {allowExternal : Bool} {file file' : Option SecretFile}
    {env env' : EnvToken} {token mine : String} {request : HttpRequest} {value : List UInt8}
    (started : Agent.authToken addr allowExternal file env = .ok (some token))
    (client : ApiClient.loadToken file' env' = .ok (some mine)) (sends : bearerAuth mine = some value)
    (carries : request.header "authorization" = some value) (guarded : request.path ≠ webhookPath) :
    (requireAuth (some token) request = true ↔ mine = token ∧ VisibleText token) ∧
    (file' = file → env' = env → mine = token) := by
  obtain ⟨loads, -⟩ := Agent.authToken_ok started
  have loaded : Loaded token := loadTokenFor_loaded loads
  have loaded' : Loaded mine := loadTokenFor_loaded client
  have alone {text : String} (loaded : Loaded text) : Text.trim text.toList = text.toList := by
    simpa using @Text.trim_pad _ [] [] loaded.ends loaded.filled (by simp)
  constructor
  · rw [requireAuth_iff loaded, or_iff_right guarded]
    constructor
    · rintro ⟨visible, gap, gap', blank, sent⟩
      rw [carries, bearerAuth_some sends, Option.some.injEq] at sent
      have whole := List.append_cancel_left (bytes_inj sent)
      have trims := Text.trim_pad loaded.ends loaded.filled (gap_blank blank)
      rw [← whole, alone loaded'] at trims
      exact ⟨String.toList_inj.mp trims, visible⟩
    · rintro ⟨rfl, visible⟩
      refine ⟨visible, [], [], by simp, ?_⟩
      rw [carries, bearerAuth_some sends]
      simp
  · rintro rfl rfl
    exact Option.some.inj (Except.ok.inj (client.symm.trans (Agent.loadToken_same loads)))

/-- A client of that agent asks for the findings. -/
theorem client_admitted_iff_findings :
    let addr : SocketAddr := ⟨.v4 #v[0, 0, 0, 0], 8080, "0.0.0.0:8080"⟩
    let file : SecretFile := ⟨"token", .ok "\n secret \r\nother\n"⟩
    let request : HttpRequest :=
      ⟨.get, "/findings", "limit=50", [("authorization", utf8 "Bearer secret"), ("authorization", [])], []⟩
    Agent.authToken addr true (some file) .notPresent = .ok (some "secret") ∧
      ApiClient.loadToken (some file) .notPresent = .ok (some "secret") ∧
      requireAuth (some "secret") request = true := by
  intro addr file request
  have started : Agent.authToken addr true (some file) .notPresent = .ok (some "secret") := by decide
  have client : ApiClient.loadToken (some file) .notPresent = .ok (some "secret") := by decide
  have sends : bearerAuth "secret" = some (utf8 "Bearer secret") := by decide
  have visible : VisibleText "secret" := by
    unfold VisibleText
    decide
  exact ⟨started, client, (client_admitted_iff started client sends rfl (by decide)).1.mpr ⟨rfl, visible⟩⟩

/-- A token beyond ASCII admits nobody, not even its owner. -/
example : ¬VisibleText "Schlüssel" := by
  unfold VisibleText
  decide

end Rieko
