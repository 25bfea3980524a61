import Acme.Core.Account

/-! All ways a nonce can be obtained and a signed request can be exchanged. -/

namespace Acme

open Interaction

/-- Several values added to the pool, in order. -/
def pushes (values : List String) : History :=
  values.map pushed

/-- After values were added to the pool, one after the other, the rest goes on. -/
@[simp] theorem ends_pushAll_bind {α : Type} {values : List String} {rest : Unit → Client α}
    {trace : History} {outcome : Except Stop α} :
    (ReplayNonceStore.pushAll values >>= rest).Ends trace outcome ↔
      ∃ later, trace = pushes values ++ later ∧ (rest ()).Ends later outcome := by
  -- By induction on the values, one call for each.
  induction values generalizing trace with
  | nil => simp [ReplayNonceStore.pushAll, pushes]
  | cons value values ih =>
    simp only [ReplayNonceStore.pushAll, pushBack, bind_assoc, Fallible.ends_ask_bind, ih, pushes,
      List.map_cons, List.cons_append]
    constructor
    · rintro ⟨⟨⟩, _, rfl, later, rfl, remains⟩
      exact ⟨later, rfl, remains⟩
    · rintro ⟨later, rfl, remains⟩
      exact ⟨(), _, rfl, later, rfl, remains⟩

/-- Adding values to the pool succeeds, one value after the other. -/
theorem ends_pushAll {values : List String} {trace : History} {outcome : Except Stop Unit} :
    (ReplayNonceStore.pushAll values).Ends trace outcome ↔
      trace = pushes values ∧ outcome = .ok () := by
  -- Pushing alone is pushing with nothing behind it.
  have sequence : ReplayNonceStore.pushAll values = ReplayNonceStore.pushAll values >>= pure :=
    (bind_pure _).symm
  rw [sequence, ends_pushAll_bind]
  simp

/-- The error of a nonce store that stays empty. -/
def noNonce : Stop := .error (.missingField "Replay-Nonce on newNonce response")

/-- All ways a nonce is obtained, or is not. -/
inductive GetRun (url : String) : History → Except Stop String → Prop where
  /-- The pool had one. -/
  | pooled (nonce : String) : GetRun url [popped (some nonce)] (.ok nonce)
  /-- The request for one failed. -/
  | unreached (failure : AcmeError) :
      GetRun url [popped none, headed url (.error failure)] (.error (.error failure))
  /-- The request for one was answered with an error status. -/
  | refused (response : HttpResponse) (status : response.isSuccess = false) :
      GetRun url [popped none, headed url (.ok response)] (.error (.error (.transport
        ("newNonce HEAD returned status " ++ toString response.status.toNat))))
  /-- After the response, the pool was still empty. -/
  | barren (response : HttpResponse) (status : response.isSuccess = true) :
      GetRun url ([popped none, headed url (.ok response)] ++ pushes response.nonces ++
        [foundEmpty true]) (.error noNonce)
  /-- The pool had filled, and was empty again when a nonce was to be taken. -/
  | robbed (response : HttpResponse) (status : response.isSuccess = true) :
      GetRun url ([popped none, headed url (.ok response)] ++ pushes response.nonces ++
        [foundEmpty false, popped none]) (.error noNonce)
  /-- The pool had filled, and a nonce was taken. -/
  | fetched (response : HttpResponse) (status : response.isSuccess = true) (nonce : String) :
      GetRun url ([popped none, headed url (.ok response)] ++ pushes response.nonces ++
        [foundEmpty false, popped (some nonce)]) (.ok nonce)

/-- The calls of a nonce store: to the pool, and a HEAD to its URL. -/
inductive StoreCall (url : String) : Event calls → Prop where
  /-- A value was taken out, or was not there. -/
  | taken (reply : Option String) : StoreCall url (popped reply)
  /-- The pool was looked at. -/
  | looked (reply : Bool) : StoreCall url (foundEmpty reply)
  /-- A value was added. -/
  | added (value : String) : StoreCall url (pushed value)
  /-- A nonce was asked for. -/
  | asked (reply : Except AcmeError HttpResponse) : StoreCall url (headed url reply)

/-- Adding values to the pool takes calls of the store only. -/
theorem storeCall_pushes {url : String} {values : List String} :
    ∀ event ∈ pushes values, StoreCall url event := by
  intro event member
  obtain ⟨value, _, rfl⟩ := List.mem_map.mp member
  exact .added value

/-- Obtaining a nonce takes calls of the store only. -/
theorem GetRun.storeCall {url : String} {trace : History} {outcome : Except Stop String}
    (run : GetRun url trace outcome) : ∀ event ∈ trace, StoreCall url event := by
  -- All but a pooled nonce start with an empty pool and a question to the authority.
  have fetching : ∀ response, ∀ event ∈ [popped none, headed url (.ok response)] ++
      pushes response.nonces, StoreCall url event := fun response =>
    List.forall_mem_append.mpr
      ⟨List.forall_mem_cons.mpr ⟨.taken none, List.forall_mem_singleton.mpr (.asked _)⟩,
        storeCall_pushes⟩
  cases run with
  | pooled nonce => exact List.forall_mem_singleton.mpr (.taken _)
  | unreached | refused =>
    exact List.forall_mem_cons.mpr ⟨.taken none, List.forall_mem_singleton.mpr (.asked _)⟩
  | barren response =>
    exact List.forall_mem_append.mpr
      ⟨fetching response, List.forall_mem_singleton.mpr (.looked _)⟩
  -- Behind the question, it is looked whether the pool has something now.
  | robbed response | fetched response =>
    exact List.forall_mem_append.mpr ⟨fetching response,
      List.forall_mem_cons.mpr ⟨.looked _, List.forall_mem_singleton.mpr (.taken _)⟩⟩

/-- A run that asks the store for a nonce has one of these forms. -/
theorem get_run {store : ReplayNonceStore} {trace : History} {outcome : Except Stop String}
    (run : store.get.Ends trace outcome) : GetRun store.newNonceUrl trace outcome := by
  simp only [ReplayNonceStore.get, popFront, Fallible.ends_ask_bind] at run
  obtain ⟨first, trace, rfl, run⟩ := run
  cases first with
  | some nonce =>
    obtain ⟨rfl, rfl⟩ := Fallible.ends_pure.mp run
    exact .pooled nonce
  | none =>
    -- The pool was empty, so everything depends on the answer to the HEAD request.
    simp only [ReplayNonceStore.refill, head, bind_assoc, Fallible.ends_ask_bind] at run
    obtain ⟨reply, trace, rfl, run⟩ := run
    cases reply with
    -- The authority was not reached.
    | error failure =>
      obtain ⟨rfl, rfl⟩ := run
      exact .unreached failure
    | ok response =>
      simp only [result_ok] at run
      by_cases status : response.isSuccess = true
      · rw [if_pos status] at run
        simp only [ReplayNonceStore.absorb, Acme.isEmpty, bind_assoc, ends_pushAll_bind,
          Fallible.ends_ask_bind] at run
        obtain ⟨trace, rfl, empty, last, rfl, run⟩ := run
        cases empty with
        -- The answer has brought nothing.
        | true =>
          obtain ⟨rfl, rfl⟩ := Fallible.ends_throw_bind.mp run
          exact .barren response status
        | false =>
          -- The pool is shared, so the nonce may be gone again.
          simp only [Bool.false_eq_true, if_false, pure_bind, Fallible.ends_ask_bind] at run
          obtain ⟨second, last, rfl, run⟩ := run
          cases second with
          | none =>
            obtain ⟨rfl, rfl⟩ := Fallible.ends_throw.mp run
            exact .robbed response status
          | some nonce =>
            obtain ⟨rfl, rfl⟩ := Fallible.ends_pure.mp run
            exact .fetched response status nonce
      · rw [if_neg status, Fallible.ends_throw_bind] at run
        obtain ⟨rfl, rfl⟩ := run
        exact .refused response (by simpa using status)

/-- One signed request: take a nonce, sign with it, send, and keep the nonces of the response. -/
def exchange (store : ReplayNonceStore) (sign : String → Except Stop Bytes) (url : String) :
    Client HttpResponse := do
  let nonce ← store.get
  let jws ← Fallible.ofExcept (sign nonce)
  let response ← postJose url jws
  ReplayNonceStore.absorb response
  pure response

/-- All ways a signed request is exchanged, or is not. -/
inductive ExchangeRun (store : ReplayNonceStore) (sign : String → Except Stop Bytes)
    (url : String) : History → Except Stop HttpResponse → Prop where
  /-- No nonce could be obtained. -/
  | noNonce {trace : History} {stop : Stop}
      (obtained : GetRun store.newNonceUrl trace (.error stop)) :
      ExchangeRun store sign url trace (.error stop)
  /-- The request could not be signed. -/
  | unsigned {trace : History} {nonce : String} {stop : Stop}
      (obtained : GetRun store.newNonceUrl trace (.ok nonce))
      (signed : sign nonce = .error stop) :
      ExchangeRun store sign url trace (.error stop)
  /-- The request was sent, and no response came back. -/
  | undelivered {trace : History} {nonce : String} {body : Bytes} (failure : AcmeError)
      (obtained : GetRun store.newNonceUrl trace (.ok nonce)) (signed : sign nonce = .ok body) :
      ExchangeRun store sign url (trace ++ [posted url body (.error failure)])
        (.error (.error failure))
  /-- The request was answered, and the nonces of the response were kept. -/
  | answered {trace : History} {nonce : String} {body : Bytes} (response : HttpResponse)
      (obtained : GetRun store.newNonceUrl trace (.ok nonce)) (signed : sign nonce = .ok body) :
      ExchangeRun store sign url
        (trace ++ posted url body (.ok response) :: pushes response.nonces) (.ok response)

/-- A signed request takes calls of the store, and a POST. -/
theorem ExchangeRun.storeCall {store : ReplayNonceStore} {sign : String → Except Stop Bytes}
    {url : String} {trace : History} {outcome : Except Stop HttpResponse}
    (run : ExchangeRun store sign url trace outcome) :
    ∀ event ∈ trace, StoreCall store.newNonceUrl event ∨
      ∃ body reply, event = posted url body reply := by
  intro event member
  cases run with
  -- Only a nonce was asked for.
  | noNonce obtained | unsigned obtained => exact .inl (obtained.storeCall event member)
  | undelivered failure obtained =>
    rcases List.mem_append.mp member with early | last
    · exact .inl (obtained.storeCall event early)
    · exact .inr ⟨_, _, List.mem_singleton.mp last⟩
  | answered response obtained =>
    rcases List.mem_append.mp member with early | last
    · exact .inl (obtained.storeCall event early)
    · -- Behind the POST, the nonces of its answer are added.
      rcases List.mem_cons.mp last with same | kept
      · exact .inr ⟨_, _, same⟩
      · exact .inl (storeCall_pushes event kept)

/-- A run of one signed request has one of these forms. -/
theorem exchange_run {store : ReplayNonceStore} {sign : String → Except Stop Bytes} {url : String}
    {trace : History} {outcome : Except Stop HttpResponse}
    (run : (exchange store sign url).Ends trace outcome) :
    ExchangeRun store sign url trace outcome := by
  -- Either a nonce was obtained and the request goes on, or there was none.
  rcases Fallible.ends_bind.mp run with ⟨nonce, earlier, later, rfl, obtained, rest⟩ |
    ⟨stop, obtained, rfl⟩
  · replace obtained := get_run obtained
    cases signed : sign nonce with
    | error stop =>
      -- Without a signature nothing is sent, and the nonce is gone.
      simp only [signed, Fallible.ends_ofExcept_bind] at rest
      obtain ⟨rfl, rfl⟩ := rest
      simpa using ExchangeRun.unsigned obtained signed
    | ok body =>
      -- The request is sent, and the nonces of its answer are absorbed.
      simp only [signed, postJose, ReplayNonceStore.absorb, Fallible.ends_ofExcept_bind,
        Fallible.ends_ask_bind] at rest
      obtain ⟨reply, last, rfl, rest⟩ := rest
      cases reply with
      | error failure =>
        -- No answer came, so there is nothing to absorb.
        obtain ⟨rfl, rfl⟩ := rest
        exact .undelivered failure obtained signed
      | ok response =>
        simp only [result_ok, ends_pushAll_bind, Fallible.ends_pure] at rest
        obtain ⟨_, rfl, rfl, rfl⟩ := rest
        simpa using ExchangeRun.answered response obtained signed
  · exact .noNonce (get_run obtained)

end Acme
