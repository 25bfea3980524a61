import Acme.Proofs.PoolLedger
import Acme.Proofs.ScriptedAuthority

/-! Used by one caller, the nonce queue always yields the most recent nonce. -/

namespace Acme

open Interaction

/-- Try a request, and go on whether it succeeded or failed. -/
def attempt {α : Type} (program : Client α) : Client Unit :=
  Fallible.viewing (fun outcome => match outcome with
    | .ok _ | .error (.error _) => .ok ()
    | .error stop => .error stop) program

/-- Post a list of requests one after the other. -/
def postSequence (lib : Libraries) (account : Account) : List (String × Bytes) → Client Unit
  | [] => pure ()
  | (url, payload) :: rest => do
    attempt (account.postKid lib url payload)
    postSequence lib account rest

/-- Create an account, then post a list of requests in its name. -/
def accountSession (lib : Libraries) (directory : Directory) (contact : List String)
    (termsAgreed onlyReturnExisting : Bool) (key : AccountKey)
    (sequence : List (String × Bytes)) : Client Unit := do
  let account ← Account.createWithOptions lib directory contact termsAgreed onlyReturnExisting key
  postSequence lib account sequence

/-- The last request of a history. -/
def lastRequest (history : History) : Option (Event calls) :=
  (requests history).getLast?

/-- The last POST of a history. -/
def lastPost (history : History) : Option (Event calls) :=
  (posts history).getLast?

/-- What a POST in a history without concurrency is like. -/
structure Fresh (newNonceUrl : String) (history : History) (body : Bytes) : Prop where
  /-- The nonce is the only one that the last response carried. -/
  latest : ∃ header payload answer, Says body header payload ∧
    (lastRequest history).bind response = some answer ∧ answer.nonces = [header.nonce]
  /--
  The last request was for a nonce exactly when there was no POST before,
  or the last one's response carried no nonce, or it failed without a response.
  -/
  primed : (∃ answer, lastRequest history = some (headed newNonceUrl answer)) ↔
    posts history = [] ∨
    (∃ answer, (lastPost history).bind response = some answer ∧ answer.nonces = []) ∨
    (∃ failure, (lastPost history).bind reply = some (.error failure))

/-- At most one nonce is kept, and every POST is fresh. -/
def Tidy (newNonceUrl : String) (history : History) : Event calls → Prop
  | ⟨.postJose _ body, _⟩ => (pool.after [] history).length ≤ 1 ∧ Fresh newNonceUrl history body
  | _ => (pool.after [] history).length ≤ 1

/-- The nonces that the last POST's response offered. -/
def offered (history : History) : List String :=
  match (lastPost history).bind response with
  | some answer => answer.nonces
  | none => []

/-- Between two calls, the pool holds what the last POST offered, if anything. -/
structure Settled (history : History) : Prop where
  pooled : pool.after [] history = offered history
  single : (offered history).length ≤ 1
  recent : offered history ≠ [] → lastRequest history = lastPost history

/-- Nothing is on offer exactly when there was no POST, or the last one brought no nonce. -/
theorem offered_eq_nil {history : History} :
    offered history = [] ↔ posts history = [] ∨
      (∃ answer, (lastPost history).bind response = some answer ∧ answer.nonces = []) ∨
      (∃ failure, (lastPost history).bind reply = some (.error failure)) := by
  unfold offered lastPost
  cases found : (posts history).getLast? with
  -- There was no POST.
  | none => simp [List.getLast?_eq_none_iff.mp found]
  | some event =>
    -- The last POST has a reply, which is a response or a failure.
    have nonempty : posts history ≠ [] := by
      rintro empty
      simp [empty] at found
    have kind : isPost event = true :=
      (List.mem_filter.mp (List.mem_of_getLast? found)).2
    obtain ⟨call, answer⟩ := event
    cases call <;> try cases kind
    cases answer <;> simp [nonempty, response, reply]

/-- What obtaining a nonce does to a settled history. -/
structure Primed (newNonceUrl : String) (before after : History) (nonce : String) : Prop where
  pooled : pool.after [] after = []
  latest : ∃ answer, (lastRequest after).bind response = some answer ∧ answer.nonces = [nonce]
  unposted : posts after = posts before
  fetched : (∃ answer, lastRequest after = some (headed newNonceUrl answer)) ↔ offered before = []

/-- A history whose responses carry at most one nonce each. -/
def Sparing (history : History) : Prop :=
  ∀ event ∈ history, ∀ answer, response event = some answer → answer.nonces.length ≤ 1

/-- A list with at most one element. -/
theorem at_most_one {values : List String} (single : values.length ≤ 1) :
    values = [] ∨ ∃ value, values = [value] := by
  -- A longer list would be longer than one.
  match values with
  | [] => exact .inl rfl
  | [value] => exact .inr ⟨value, rfl⟩
  | _ :: _ :: _ => simp at single

/-- Without further POSTs, the offer stands. -/
theorem offered_unposted {history later : History} (unposted : posts later = []) :
    offered (history ++ later) = offered history := by
  simp [offered, lastPost, unposted]

/-- An empty pool is settled when nothing is on offer. -/
theorem settled_of_empty {history : History} (pooled : pool.after [] history = [])
    (nothing : offered history = []) : Settled history :=
  ⟨by rw [pooled, nothing], by simp [nothing], fun something => absurd nothing something⟩

/-- The nonce on offer is the one of the last request, which was a POST. -/
theorem Settled.latest {history : History} {nonce : String} (settled : Settled history)
    (one : offered history = [nonce]) :
    (∃ answer, (lastRequest history).bind response = some answer ∧ answer.nonces = [nonce]) ∧
      ∀ url answer, lastRequest history ≠ some (headed url answer) := by
  -- With a nonce on offer the last request is the last POST.
  have recent := settled.recent (by simp [one])
  rw [recent]
  cases found : lastPost history with
  | none => simp [offered, found] at one
  | some event =>
    have kind : isPost event = true :=
      (List.mem_filter.mp (List.mem_of_getLast? found)).2
    constructor
    · -- The offer is what the answer to that POST brought.
      cases brought : response event with
      | none => simp [offered, found, brought] at one
      | some answer =>
        exact ⟨answer, brought, by simpa [offered, found, brought] using one⟩
    · -- A POST is no HEAD request.
      rintro url answer same
      obtain rfl := Option.some.inj same
      cases kind

/-- What asking for a nonce makes of a settled history: it primes it, or leaves it settled. -/
def Obtained (newNonceUrl : String) (before after : History) : Except Stop String → Prop
  | .ok nonce => Primed newNonceUrl before after nonce
  | .error _ => Settled after

/-- When nothing is on offer the pool is empty, and a HEAD request brings the nonce. -/
theorem get_unoffered {url : String} {history trace : History} {outcome : Except Stop String}
    (settled : Settled history) (nothing : offered history = []) (run : GetRun url trace outcome)
    (shared : pool.Admits [] trace) (sparing : Sparing trace) :
    (World.chronicle (Tidy url)).Admits history trace ∧
      Obtained url history (history ++ trace) outcome := by
  have pooled : pool.after [] history = [] := settled.pooled.trans nothing
  -- As long as nothing is posted and nothing pooled, it stays that way.
  have empty : ∀ later, posts later = [] → pool.after [] later = [] →
      Settled (history ++ later) := fun later unposted left =>
    settled_of_empty (by rw [World.after_append, pooled, left])
      (by rw [offered_unposted unposted, nothing])
  cases run with
  | pooled nonce => simp at shared
  | unreached failure => exact ⟨by simp [Tidy, pooled], empty _ rfl rfl⟩
  | refused answer status => exact ⟨by simp [Tidy, pooled], empty _ rfl rfl⟩
  | barren answer status =>
    -- The pool was found empty, so the answer brought nothing.
    have brought : answer.nonces = [] := by simpa using shared
    rw [brought]
    exact ⟨by simp [Tidy, pooled, pushes], empty _ rfl rfl⟩
  | robbed answer status =>
    -- The pool is not shared here, so nobody can have taken the nonce.
    have gone : answer.nonces ≠ [] ∧ none = answer.nonces.head? := by simpa using shared
    exact absurd (List.head?_eq_none_iff.mp gone.2.symm) gone.1
  | fetched answer status nonce =>
    rcases at_most_one (sparing (headed url (.ok answer)) (by simp) answer rfl) with
      brought | ⟨value, brought⟩
    · simp [brought] at shared
    · -- The answer brought one nonce, and that is the one taken out.
      obtain rfl : nonce = value := by simpa [brought] using shared
      rw [brought]
      refine ⟨by simp [Tidy, pooled, pushes], ?_, ⟨answer, ?_, brought⟩, ?_, ?_⟩
      · simp [pooled]
      · simp [lastRequest, requests, reply, response, pushes]
      · simp [posts, isPost, pushes]
      · simp [lastRequest, requests, reply, pushes, nothing]

/-- A nonce on offer is taken out of the pool. -/
theorem get_offered {url value : String} {history trace : History} {outcome : Except Stop String}
    (settled : Settled history) (one : offered history = [value]) (run : GetRun url trace outcome)
    (shared : pool.Admits [value] trace) :
    (World.chronicle (Tidy url)).Admits history trace ∧
      Obtained url history (history ++ trace) outcome := by
  have pooled : pool.after [] history = [value] := settled.pooled.trans one
  cases run with
  -- The nonce in the pool is the one that the last answer has brought.
  | pooled nonce =>
    obtain rfl : nonce = value := by simpa using shared
    obtain ⟨⟨answer, last, brought⟩, unasked⟩ := settled.latest one
    refine ⟨by simp [Tidy, pooled], ?_, ⟨answer, ?_, brought⟩, ?_, ?_⟩
    · simp [pooled]
    · simpa [lastRequest, requests, reply] using last
    · simp [posts, isPost]
    · simp only [one, List.cons_ne_nil, iff_false, not_exists]
      simpa [lastRequest, requests, reply] using unasked url
  -- With a nonce in the pool there is no request for one.
  | unreached failure => simp at shared
  | refused answer status => simp at shared
  | barren answer status => simp at shared
  | robbed answer status => simp at shared
  | fetched answer status nonce => simp at shared

/-- Obtaining a nonce from a settled history yields the latest one, or leaves it settled. -/
theorem get_tidy {url : String} {history trace : History} {outcome : Except Stop String}
    (settled : Settled history) (run : GetRun url trace outcome)
    (shared : pool.Admits (pool.after [] history) trace) (sparing : Sparing trace) :
    (World.chronicle (Tidy url)).Admits history trace ∧
      Obtained url history (history ++ trace) outcome := by
  -- What the pool holds is what is on offer.
  rw [settled.pooled] at shared
  rcases at_most_one settled.single with nothing | ⟨value, one⟩
  · rw [nothing] at shared
    exact get_unoffered settled nothing run shared sparing
  · rw [one] at shared
    exact get_offered settled one run shared

/-- A POST signed with the nonce just obtained is fresh. -/
theorem Primed.fresh {url : String} {before after : History} {body payload : Bytes}
    {header : ProtectedHeader} (primed : Primed url before after header.nonce)
    (states : Says body header payload) : Fresh url after body := by
  obtain ⟨answer, last, brought⟩ := primed.latest
  refine ⟨⟨header, payload, answer, states, last, brought⟩, ?_⟩
  -- No POST came in between, so both histories end with the same POST.
  have same : lastPost after = lastPost before := congrArg List.getLast? primed.unposted
  rw [primed.fetched, offered_eq_nil, primed.unposted, same]

/-- A trace is tidy after a history, and unless a panic ended it, the whole is settled again. -/
structure StaysTidy {α : Type} (url : String) (history trace : History)
    (outcome : Except Stop α) : Prop where
  tidy : (World.chronicle (Tidy url)).Admits history trace
  pooled : (pool.after [] (history ++ trace)).length ≤ 1
  settled : (∀ message, outcome ≠ .error (.panic message)) → Settled (history ++ trace)

/-- A settled history keeps at most one nonce. -/
theorem Settled.pooled_le {history : History} (settled : Settled history) :
    (pool.after [] history).length ≤ 1 := by
  rw [settled.pooled]
  exact settled.single

/-- After the last nonce was taken, a fresh POST is tidy, and what it brings settles the history. -/
theorem posted_tidy {newNonceUrl url : String} {history : History} {body : Bytes}
    {answer : Except AcmeError HttpResponse} (pooled : pool.after [] history = [])
    (fresh : Fresh newNonceUrl history body) (single : (brought answer).length ≤ 1) :
    (World.chronicle (Tidy newNonceUrl)).Admits history
      (posted url body answer :: pushes (brought answer)) ∧
    Settled (history ++ posted url body answer :: pushes (brought answer)) := by
  -- The last POST offers what its answer has brought.
  have offer : offered (history ++ posted url body answer :: pushes (brought answer))
      = brought answer := by
    rw [List.append_cons, offered_unposted posts_pushes]
    cases answer <;> simp [offered, lastPost, posts, isPost, response, reply, brought]
  refine ⟨⟨⟨by simp [pooled], fresh⟩, ?_⟩, ?_, by rw [offer]; exact single, fun _ => ?_⟩
  · -- At most one value is added to an empty pool.
    rcases at_most_one single with nothing | ⟨value, one⟩
    · simp [nothing, pushes]
    · simp [one, pushes, Tidy, pooled]
  · rw [offer]
    simp [pooled]
  · -- The last request is this POST.
    have last : requests (posted url body answer :: pushes (brought answer))
        = [posted url body answer] := by
      rw [← List.singleton_append, requests_append, requests_pushes]
      rfl
    have same : posts (posted url body answer :: pushes (brought answer))
        = [posted url body answer] := by
      rw [← List.singleton_append, posts_append, posts_pushes]
      rfl
    rw [lastRequest, lastPost, requests_append, posts_append, last, same]
    simp

/-- One signed request keeps a settled history tidy. -/
theorem exchange_tidy {store : ReplayNonceStore} {sign : String → Except Stop Bytes}
    {url : String} {history trace : History} {outcome : Except Stop HttpResponse}
    (settled : Settled history) (signs : SignsNonce sign)
    (run : ExchangeRun store sign url trace outcome)
    (shared : pool.Admits (pool.after [] history) trace) (sparing : Sparing trace) :
    StaysTidy store.newNonceUrl history trace outcome := by
  -- Once a nonce was obtained and used, only what the reply brings matters.
  have sent : ∀ {nonce trace body} answer, GetRun store.newNonceUrl trace (.ok nonce) →
      sign nonce = .ok body → pool.Admits (pool.after [] history) trace → Sparing trace →
      (brought answer).length ≤ 1 →
      StaysTidy store.newNonceUrl history
        (trace ++ posted url body answer :: pushes (brought answer)) outcome := by
    intro nonce trace body answer obtained signed shared sparing single
    obtain ⟨tidy, primed⟩ := get_tidy settled obtained shared sparing
    -- The body says which nonce it was signed with.
    obtain ⟨header, payload, states, rfl⟩ := signs.states nonce body signed
    obtain ⟨later, whole⟩ := posted_tidy primed.pooled (primed.fresh states) single
    rw [List.append_assoc] at whole
    exact ⟨World.admits_append.mpr ⟨tidy, by simpa using later⟩, whole.pooled_le, fun _ => whole⟩
  cases run with
  -- Without a nonce the pool is as settled as obtaining it has left it.
  | noNonce obtained =>
    obtain ⟨tidy, settled⟩ := get_tidy settled obtained shared sparing
    exact ⟨tidy, Settled.pooled_le settled, fun _ => settled⟩
  | @unsigned trace nonce stop obtained signed =>
    obtain ⟨tidy, primed⟩ := get_tidy settled obtained shared sparing
    -- The nonce was taken and not used, which only a panic can do.
    obtain ⟨message, rfl⟩ := signs.panics nonce stop signed
    exact ⟨tidy, by rw [primed.pooled]; simp, fun other => absurd rfl (other message)⟩
  -- A POST without an answer brings nothing, and any other one what its answer brings.
  | undelivered failure obtained signed =>
    exact sent (.error failure) obtained signed (World.admits_append.mp shared).1
      (fun event member => sparing event (List.mem_append_left _ member)) (by simp [brought])
  | @answered trace nonce body answer obtained signed =>
    exact sent (.ok answer) obtained signed (World.admits_append.mp shared).1
      (fun event member => sparing event (List.mem_append_left _ member))
      (sparing (posted url body (.ok answer)) (by simp) answer rfl)

/-- Joined traces are tidy when the first leaves a settled history and the second is tidy after it. -/
theorem StaysTidy.append {α β : Type} {url : String} {history earlier later : History}
    {first : Except Stop α} {last : Except Stop β} (before : StaysTidy url history earlier first)
    (after : StaysTidy url (history ++ earlier) later last) :
    StaysTidy url history (earlier ++ later) last :=
  ⟨World.admits_append.mpr ⟨before.tidy, by simpa using after.tidy⟩,
    by simpa using after.pooled, by simpa using after.settled⟩

/-- A list of requests keeps a settled history tidy. -/
theorem postSequence_tidy {lib : Libraries} {account : Account} {sequence : List (String × Bytes)}
    {history trace : History} {outcome : Except Stop Unit} (settled : Settled history)
    (run : (postSequence lib account sequence).Ends trace outcome)
    (shared : pool.Admits (pool.after [] history) trace) (sparing : Sparing trace) :
    StaysTidy account.nonce.newNonceUrl history trace outcome := by
  -- By induction on the requests, each of which starts where the one before has left the pool.
  induction sequence generalizing history trace with
  | nil =>
    obtain ⟨rfl, rfl⟩ := Fallible.ends_pure.mp run
    exact ⟨trivial, by simpa using settled.pooled_le, fun _ => by simpa using settled⟩
  | cons request rest ih =>
    obtain ⟨url, payload⟩ := request
    rcases Fallible.ends_bind.mp run with ⟨_, earlier, later, rfl, tried, remains⟩ |
      ⟨stop, tried, rfl⟩
    · -- An error of one request does not end the sequence.
      obtain ⟨original, posted, went⟩ := Fallible.ends_viewing.mp tried
      obtain ⟨shared, sharedLater⟩ := World.admits_append.mp shared
      have first := exchange_tidy settled (signsNonce_kid lib payload url account.kid account.key)
        (exchange_run posted) shared
        fun event member => sparing event (List.mem_append_left _ member)
      -- The sequence goes on, so no panic has ended the request.
      have calm : ∀ message, original ≠ .error (.panic message) := by
        -- A panic of the last request is a panic of the sequence.
        rintro message rfl
        cases went
      refine first.append (ih (first.settled calm) remains ?_
        fun event member => sparing event (List.mem_append_right _ member))
      simpa using sharedLater
    · obtain ⟨original, posted, went⟩ := Fallible.ends_viewing.mp tried
      have first := exchange_tidy settled (signsNonce_kid lib payload url account.kid account.key)
        (exchange_run posted) shared sparing
      refine ⟨first.tidy, first.pooled, fun calm => first.settled ?_⟩
      rintro message rfl
      exact calm message went

/-- Nothing has happened yet. -/
theorem settled_nil : Settled [] :=
  settled_of_empty rfl rfl

/-- A session keeps the empty history tidy. -/
theorem accountSession_tidy {lib : Libraries} {directory : Directory} {contact : List String}
    {termsAgreed onlyReturnExisting : Bool} {key : AccountKey}
    {sequence : List (String × Bytes)} {trace : History} {outcome : Except Stop Unit}
    (run : (accountSession lib directory contact termsAgreed onlyReturnExisting key
      sequence).Ends trace outcome)
    (shared : pool.Admits [] trace) (sparing : Sparing trace) :
    StaysTidy directory.newNonce [] trace outcome := by
  have signs : SignsNonce (signNewAccount lib directory contact termsAgreed onlyReturnExisting key) :=
    signsNonce_jwk ..
  rcases Fallible.ends_bind.mp run with ⟨account, earlier, later, rfl, created, remains⟩ |
    ⟨stop, created, rfl⟩
  · -- The first request makes the account, and the others follow with its store.
    obtain ⟨shared, sharedLater⟩ := World.admits_append.mp shared
    obtain ⟨exchanged, posted, came⟩ := create_run created
    obtain ⟨answer, rfl, built⟩ := bind_result_eq_ok.mp came.symm
    have made := Account.created_from built
    have first := exchange_tidy settled_nil signs posted shared
      fun event member => sparing event (List.mem_append_left _ member)
    have later := postSequence_tidy (first.settled (by simp)) remains (by simpa using sharedLater)
      fun event member => sparing event (List.mem_append_right _ member)
    rw [made.nonce] at later
    exact first.append later
  · -- Without an account there are no further requests.
    obtain ⟨exchanged, posted, came⟩ := create_run created
    have first := exchange_tidy settled_nil signs posted shared sparing
    refine ⟨first.tidy, first.pooled, fun calm => first.settled ?_⟩
    rintro message rfl
    obtain rfl := Except.error.inj came
    exact calm message rfl

/-- The pool never holds more than one nonce, and every POST is fresh. -/
structure FreshSequence (newNonceUrl : String) (trace : History) : Prop where
  pooled : ∀ before after, trace = before ++ after → (pool.after [] before).length ≤ 1
  fresh : ∀ before url body answer after, trace = before ++ posted url body answer :: after →
    Fresh newNonceUrl before body

/--
When one caller creates an account and posts requests in its name, one after the other,
the pool holds at most one nonce all the time, and each POST is signed with the nonce of the
response before it, after a HEAD exactly when no POST before it left a nonce.
-/
theorem nonces_fresh_in_sequence {lib : Libraries} {directory : Directory}
    {contact : List String} {termsAgreed onlyReturnExisting : Bool} {key : AccountKey}
    {sequence : List (String × Bytes)} {trace : History} {outcome : Except Stop Unit}
    (run : (accountSession lib directory contact termsAgreed onlyReturnExisting key
      sequence).Ends trace outcome)
    (shared : pool.Admits [] trace)
    (sparing : ∀ event ∈ trace, ∀ answer, response event = some answer →
      answer.nonces.length ≤ 1) :
    FreshSequence directory.newNonce trace := by
  obtain ⟨tidy, pooled, _⟩ := accountSession_tidy run shared sparing
  refine ⟨?_, ?_⟩
  · rintro before after rfl
    cases after with
    | nil => simpa using pooled
    | cons event after =>
      -- Whatever event comes next, it happened with at most one nonce in the pool.
      have allowed := World.admits_at tidy
      simp only [World.after_chronicle, List.nil_append, World.chronicle_allows] at allowed
      unfold Tidy at allowed
      split at allowed
      · exact allowed.1
      · exact allowed
  · -- A POST is tidy when its nonce is fresh.
    rintro before url body answer after rfl
    have allowed := World.admits_at tidy
    simp only [World.after_chronicle, List.nil_append, World.chronicle_allows] at allowed
    exact allowed.2

/-- A session in which a request without a nonce in its response and a failed one occur. -/
def sampleSession : Client Unit :=
  accountSession sampleLibraries sampleDirectory [] true false sampleKey
    [("ca/1", []), ("ca/2", []), ("ca/3", [])]

/-- What the authority answers in that session. -/
def sessionScript : List (Except AcmeError HttpResponse) :=
  [answering 200 "n0" [] "", answering 201 "n1" [("Location", "ca/acct/1")] "{}",
    .ok { status := 503, headers := [], body := [] }, answering 200 "n2" [] "",
    .error (.transport "connection reset"), answering 204 "n3" [] "", answering 200 "n4" [] ""]

/-- All four requests of the session are posted, three of them after a HEAD, and all are fresh. -/
theorem nonces_fresh_in_sequence_sample :
    (play sessionScript sampleSession).2 = .ok () ∧
      FreshSequence sampleDirectory.newNonce (play sessionScript sampleSession).1 := by
  refine ⟨by decide +kernel, nonces_fresh_in_sequence (play_ends sessionScript sampleSession)
    (play_shared sessionScript sampleSession) ?_⟩
  intro event member answer answered
  -- No line of the script brings more than one nonce.
  have sparing : ∀ line ∈ sessionScript, (brought line).length ≤ 1 := by decide +kernel
  exact sparing _ (play_response member answered)

end Acme
