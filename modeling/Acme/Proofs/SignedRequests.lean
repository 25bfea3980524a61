import Acme.Proofs.Outline
import Acme.Proofs.SharedPool

/-! Every request of an issuance is bound to its URL, its key, its account and a fresh nonce. -/

namespace Acme

open Interaction

/-- The directory that the first response of an issuance described. -/
def Fetched (lib : Libraries) (request : IssueRequest) (history : History)
    (directory : Directory) : Prop :=
  ∃ answer rest, history = got request.directoryUrl (.ok answer) :: rest ∧
    Directory.read lib answer = .ok directory

/-- Which key identifier a POST carries: the key itself in the first one, and then the account. -/
def Identified (lib : Libraries) (request : IssueRequest) (before : History) (url : String)
    (header : ProtectedHeader) (payload : Bytes) : Prop :=
  match posts before with
  | [] => ∃ directory, Fetched lib request before directory ∧ url = directory.newAccount ∧
      payload = Account.newAccountPayload lib request.contact true false ∧
      header.jwk = some (request.accountKey.publicJwk lib) ∧ header.kid = none
  | first :: _ => ∃ created kid, response first = some created ∧
      created.header "Location" = some kid ∧ header.jwk = none ∧ header.kid = some kid

/-- What the protected header of a POST is bound to. -/
structure Bound (lib : Libraries) (request : IssueRequest) (before : History) (url : String)
    (header : ProtectedHeader) (payload : Bytes) : Prop where
  /-- The URL is the one that the POST is sent to. -/
  target : header.url = url
  /-- The algorithm is the one of the account key. -/
  alg : header.alg = request.accountKey.alg
  /-- The nonce came with an earlier response. -/
  nonce : header.nonce ∈ total nonceReceived before
  /-- The key identifier belongs to the account. -/
  identified : Identified lib request before url header payload

/-- How the requests of an issuance are addressed and signed. -/
structure Disciplined (lib : Libraries) (request : IssueRequest) (trace : History) : Prop where
  /-- The only GET is the first call, and it is for the directory. -/
  gets : ∀ before url answer after, trace = before ++ got url answer :: after →
    before = [] ∧ url = request.directoryUrl
  /-- Every HEAD goes to the directory's nonce URL. -/
  heads : ∀ before url answer after, trace = before ++ headed url answer :: after →
    ∃ directory, Fetched lib request before directory ∧ url = directory.newNonce
  /-- Every POST is signed, and bound to where and after what it is sent. -/
  posts : ∀ before url body answer after, trace = before ++ posted url body answer :: after →
    ∃ header payload, Says body header payload ∧ Bound lib request before url header payload

/-- An event that is no GET, and a HEAD only for a nonce. -/
def Addressed (newNonceUrl : String) : Event calls → Prop
  | ⟨.get _, _⟩ => False
  | ⟨.head url, _⟩ => url = newNonceUrl
  | _ => True

variable {lib : Libraries} {account : Account} {trace : History}

/-- A signed request takes a POST, and at most a HEAD for a nonce. -/
theorem ExchangeRun.addressed {store : ReplayNonceStore} {sign : String → Except Stop Bytes}
    {url : String} {outcome : Except Stop HttpResponse}
    (run : ExchangeRun store sign url trace outcome) :
    ∀ event ∈ trace, Addressed store.newNonceUrl event := by
  intro event member
  -- Of the calls of the store only the HEAD has an address, which is the store's own.
  rcases run.storeCall event member with store | ⟨body, reply, rfl⟩
  · cases store <;> trivial
  · trivial

/-- Requests in an account's name take POSTs, and HEADs for nonces. -/
theorem Woven.addressed (woven : Woven lib account trace) :
    ∀ event ∈ trace, Addressed account.nonce.newNonceUrl event := by
  induction woven with
  | nil => simp
  | request exchanged _ ih => exact List.forall_mem_append.mpr ⟨exchanged.addressed, ih⟩
  | @aside event later kind _ ih =>
    refine List.forall_mem_cons.mpr ⟨?_, ih⟩
    -- Solvers and the clock are neither asked by GET nor by HEAD.
    obtain ⟨call, answer⟩ := event
    cases call <;> trivial

/-- Every POST in an account's name carries its URL, is bound to its target, and embeds no key. -/
theorem Woven.signed (woven : Woven lib account trace) {url : String} {body : Bytes}
    {answer : Except AcmeError HttpResponse} (member : posted url body answer ∈ posts trace) :
    ∃ nonce payload, Says body
      { alg := account.key.alg, jwk := none, kid := some account.kid, nonce, url } payload := by
  -- By induction on the requests; the POST is in the first one or in a later one.
  induction woven with
  | nil => cases member
  | request exchanged _ ih =>
    rw [posts_append, List.mem_append] at member
    rcases member with here | later
    · -- A request has one POST at most, which is signed with the key of the account.
      rcases exchanged.one_post with ⟨none, _⟩ | ⟨nonce, content, reply, signed, only, _⟩
      · simp [none] at here
      · rw [only, List.mem_singleton] at here
        cases here
        exact ⟨nonce, _, says_kid signed⟩
    · exact ih later
  | aside kind _ ih => exact ih (posts_aside kind ▸ member)

/-- When a world lets every signed request and every other call pass, it admits the issuance. -/
theorem Outline.admits {σ : Type} {W : World calls σ} {request : IssueRequest}
    (outline : Outline lib request trace)
    (exchanged : ∀ {store sign url trace outcome}, SignsNonce sign →
      ExchangeRun store sign url trace outcome → ∀ state, W.Admits state trace)
    (asked : ∀ state url answer, W.Allows state (got url answer))
    (aside : ∀ state event, isAside event = true → W.Allows state event) (state : σ) :
    W.Admits state trace := by
  -- In the name of an account, requests and other events follow each other.
  have woven : ∀ {account trace}, Woven lib account trace → ∀ state, W.Admits state trace := by
    intro account trace woven
    induction woven with
    | nil => exact fun _ => trivial
    | request run _ ih =>
      exact fun state => World.admits_append.mpr ⟨exchanged (signsNonce_kid ..) run state, ih _⟩
    | aside kind _ ih => exact fun state => ⟨aside state _ kind, ih _⟩
  -- In front of them stand the directory and the registration.
  cases outline with
  | directory answer => exact ⟨asked _ _ _, trivial⟩
  | account _ registering => exact ⟨asked _ _ _, exchanged (signsNonce_jwk ..) registering _⟩
  | requests _ registered _ rest =>
    exact ⟨asked _ _ _, World.admits_append.mpr
      ⟨exchanged (signsNonce_jwk ..) registered _, woven rest _⟩⟩

/-- Calls to solvers and the clock neither sign a nonce nor add one to the pool. -/
theorem free_aside {event : Event calls} (aside : isAside event = true) :
    nonceSigned event = 0 ∧ noncePushed event = 0 := by
  obtain ⟨call, answer⟩ := event
  cases call <;> first | exact ⟨rfl, rfl⟩ | cases aside

/-- An issuance signs only nonces it took. -/
theorem Outline.signatures {request : IssueRequest} (outline : Outline lib request trace) :
    signatures.Admits 0 trace :=
  outline.admits (fun signs run _ => exchange_signatures signs run)
    (fun _ _ _ => Multiset.zero_le _)
    (fun _ _ kind => by simp [(free_aside kind).1]) 0

/-- An issuance adds only nonces to the pool that it received. -/
theorem Outline.supplies {request : IssueRequest} (outline : Outline lib request trace) :
    supplies.Admits 0 trace :=
  outline.admits (fun _ run _ => exchange_supplies run)
    (fun _ _ _ => Multiset.zero_le _)
    (fun _ _ kind => by simp [(free_aside kind).2]) 0

/-- When what is signed was taken, and what is added was received, a POST's nonce was received. -/
theorem nonce_received {before after : History} {url : String} {body payload : Bytes}
    {answer : Except AcmeError HttpResponse} {header : ProtectedHeader}
    (signed : signatures.Admits 0 (before ++ posted url body answer :: after))
    (supplied : supplies.Admits 0 (before ++ posted url body answer :: after))
    (shared : pool.Admits [] (before ++ posted url body answer :: after))
    (states : Says body header payload) : header.nonce ∈ total nonceReceived before := by
  rw [List.append_cons] at signed
  have spent := Budget.covered (World.admits_append.mp signed).1
  -- The same goes for what was added and what was received.
  have earned := Budget.covered (World.admits_append.mp supplied).1
  have conserved := pool_conserves (World.admits_append.mp shared).1
  simp only [zero_add, total_append, total_cons, total_nil, add_zero,
    nonceSigned_posted states] at spent earned
  -- The nonce is signed, so it was taken, so it had been added, so it had been received.
  rw [← Multiset.singleton_le]
  calc {header.nonce}
      ≤ total nonceSigned before + {header.nonce} := Multiset.le_add_left _ _
    _ ≤ total nonceTaken before := by simpa [nonceTaken] using spent
    _ ≤ total noncePushed before := by
        rw [conserved, add_assoc]
        exact Multiset.le_add_right _ _
    _ ≤ total nonceReceived before := earned

/-- In a signed request, nothing is posted before the one POST. -/
theorem ExchangeRun.posted_first {store : ReplayNonceStore} {sign : String → Except Stop Bytes}
    {target url : String} {outcome : Except Stop HttpResponse} {before after : History}
    {body : Bytes} {answer : Except AcmeError HttpResponse}
    (run : ExchangeRun store sign target (before ++ posted url body answer :: after) outcome) :
    posts before = [] ∧ url = target ∧ ∃ nonce, sign nonce = .ok body := by
  rcases run.one_post with ⟨none, _⟩ | ⟨nonce, content, reply, signed, only, _⟩
  · -- There is a POST in it, so it was signed and sent.
    simp at none
  · -- The POST in question is the only one.
    simp only [posts_append, posts_posted] at only
    obtain ⟨first, same⟩ : posts before = [] ∧ posted url body answer = posted target content reply := by
      cases earlier : posts before with
      | nil =>
        rw [earlier] at only
        exact ⟨rfl, (List.cons.inj only).1⟩
      | cons head tail =>
        rw [earlier] at only
        simp at only
    cases same
    exact ⟨first, rfl, nonce, signed⟩

/-- The first POST of an issuance asks for the account, with the account key itself. -/
theorem registration_bound {request : IssueRequest} {answer : HttpResponse}
    {directory : Directory} {before after : History} {outcome : Except Stop HttpResponse}
    {url : String} {body : Bytes} {reply : Except AcmeError HttpResponse}
    (fetched : Directory.read lib answer = .ok directory)
    (registering : ExchangeRun { newNonceUrl := directory.newNonce }
      (signIssuer lib request directory) directory.newAccount
      (before ++ posted url body reply :: after) outcome) :
    ∃ header payload, Says body header payload ∧ header.url = url ∧
      header.alg = request.accountKey.alg ∧
      Identified lib request (got request.directoryUrl (.ok answer) :: before) url header
        payload := by
  obtain ⟨unposted, rfl, nonce, signed⟩ := registering.posted_first
  refine ⟨_, _, says_jwk signed, rfl, rfl, ?_⟩
  -- It is the first POST, so the account cannot be known yet.
  have first : posts (got request.directoryUrl (.ok answer) :: before) = [] := unposted
  unfold Identified
  rw [first]
  exact ⟨directory, ⟨answer, before, rfl, fetched⟩, rfl, rfl, rfl, rfl⟩

/-- All later POSTs of an issuance name the account. -/
theorem requests_bound {request : IssueRequest} {answer created : HttpResponse}
    {directory : Directory} {registration before after : History}
    {url : String} {body : Bytes} {reply : Except AcmeError HttpResponse}
    (registered : ExchangeRun { newNonceUrl := directory.newNonce }
      (signIssuer lib request directory) directory.newAccount registration (.ok created))
    (made : CreatedFrom directory request.accountKey created account)
    (rest : Woven lib account (before ++ posted url body reply :: after)) :
    ∃ header payload, Says body header payload ∧ header.url = url ∧
      header.alg = request.accountKey.alg ∧
      Identified lib request (got request.directoryUrl (.ok answer) :: (registration ++ before))
        url header payload := by
  obtain ⟨nonce, payload, states⟩ := rest.signed mem_posts
  refine ⟨_, payload, states, rfl, by rw [made.key], ?_⟩
  -- The account was created, so its POST was answered.
  rcases registered.one_post with ⟨_, _, failed⟩ | ⟨_, content, reply, _, only, answered⟩
  · cases failed
  · cases reply with
    | error failure => cases answered
    | ok response =>
      obtain rfl := Except.ok.inj answered
      -- The first POST of all is that for the account.
      have first : posts (got request.directoryUrl (.ok answer) :: (registration ++ before))
          = posted directory.newAccount content (.ok created) :: posts before := by
        show posts (registration ++ before) = _
        rw [posts_append, only]
        rfl
      unfold Identified
      rw [first]
      exact ⟨created, account.kid, rfl, made.location, rfl, rfl⟩

/-- After the GET for the directory, requests are POSTs, and HEADs to its nonce URL. -/
theorem Outline.addressed {request : IssueRequest} (outline : Outline lib request trace) :
    ∃ answer rest, trace = got request.directoryUrl answer :: rest ∧
      ∀ event ∈ rest, ∃ response directory, answer = .ok response ∧
        Directory.read lib response = .ok directory ∧ Addressed directory.newNonce event := by
  cases outline with
  | directory answer => exact ⟨answer, [], rfl, by simp⟩
  | account fetched registering =>
    exact ⟨_, _, rfl, fun event member => ⟨_, _, rfl, fetched, registering.addressed event member⟩⟩
  | requests fetched registered made rest =>
    refine ⟨_, _, rfl, fun event member => ⟨_, _, rfl, fetched, ?_⟩⟩
    -- The account has the directory it was created with.
    have later := rest.addressed
    rw [made.nonce] at later
    exact List.forall_mem_append.mpr ⟨registered.addressed, later⟩ event member

/-- Every POST of an issuance is bound to its URL, its algorithm and its account. -/
theorem Outline.bound {request : IssueRequest} {before after : History} {url : String}
    {body : Bytes} {reply : Except AcmeError HttpResponse}
    (outline : Outline lib request (before ++ posted url body reply :: after)) :
    ∃ header payload, Says body header payload ∧ header.url = url ∧
      header.alg = request.accountKey.alg ∧ Identified lib request before url header payload := by
  generalize split : before ++ posted url body reply :: after = trace at outline
  -- The POST is not the first call, which is a GET.
  cases before with
  | nil => cases outline <;> cases (List.cons.inj split).1
  | cons first before =>
    cases outline with
    | directory answer => simp at split
    | account fetched registering =>
      obtain ⟨rfl, rfl⟩ := List.cons.inj split
      exact registration_bound fetched registering
    | requests fetched registered made rest =>
      obtain ⟨rfl, tail⟩ := List.cons.inj split
      -- It belongs to the creation of the account, or comes after it.
      rcases split_append tail.symm with ⟨_, rfl, _⟩ | ⟨middle, rfl, rfl⟩
      · exact registration_bound fetched registered
      · exact requests_bound registered made rest

/--
Whatever the authority answers, an issuance GETs nothing but the directory, sends HEADs
to its nonce URL only, and signs every POST for the URL it is sent to, with the account
key's algorithm and a nonce it has received. The first POST creates the account and embeds
the key, and all others name the account by the URL that came back for it.
-/
theorem requests_disciplined {lib : Libraries} {fuel : Nat} {request : IssueRequest}
    {trace : History} {outcome : Except Stop Bytes}
    (run : (issueCertificateWithTimeouts lib fuel request).Ends trace outcome)
    (shared : pool.Admits [] trace) : Disciplined lib request trace := by
  -- The run starts with the directory, and goes on with requests that are addressed by it.
  have outline := (issue_run run).outline
  obtain ⟨answer, rest, head, addressed⟩ := outline.addressed
  refine ⟨?_, ?_, ?_⟩
  · rintro before url reply after rfl
    cases before with
    | nil =>
      -- The first call is the GET for the directory.
      cases (List.cons.inj head).1
      exact ⟨rfl, rfl⟩
    | cons first before =>
      -- No later request is a GET.
      obtain ⟨_, rfl⟩ := List.cons.inj head
      obtain ⟨_, _, _, _, impossible⟩ := addressed (got url reply) (by simp)
      exact impossible.elim
  · rintro before url reply after rfl
    cases before with
    -- It is no HEAD, so the HEAD stands behind it.
    | nil => cases (List.cons.inj head).1
    | cons first before =>
      obtain ⟨rfl, rfl⟩ := List.cons.inj head
      obtain ⟨response, directory, rfl, fetched, target⟩ := addressed (headed url reply) (by simp)
      exact ⟨directory, ⟨response, before, rfl, fetched⟩, target⟩
  · rintro before url body reply after rfl
    -- A POST is bound to its target, and its nonce was received before.
    obtain ⟨header, payload, states, target, alg, identified⟩ := outline.bound
    exact ⟨header, payload, states, target, alg,
      nonce_received outline.signatures outline.supplies shared states, identified⟩

/-- A whole issuance, with ten POSTs in it, is disciplined. -/
theorem requests_disciplined_sample :
    sampleIssuance.2 = .ok (Utf8.bytes "chain") ∧
      Disciplined sampleLibraries sampleRequest sampleIssuance.1 :=
  ⟨by decide +kernel, requests_disciplined sampleIssuance_ends sampleIssuance_shared⟩

end Acme
