import AttachmentFetch.Http.Client
import AttachmentFetch.Proofs.Step

/-! Whose response it is: what a request gives is a reply of the server, met in
turn after those that led there. -/
namespace AttachmentFetch.Http

/-- Between two states of the network a request has met replies of the server, this one last. -/
def LedTo (before after : Network) (reply : Reply) : Prop :=
  ∃ passed later requests sent,
    before = .up (passed ++ reply :: later) requests ∧ after = .up later (requests ++ sent)

/-- The last reply that a request has met is the response. -/
def Met (before after : Network) (response : Response) : Prop :=
  LedTo before after (.response response)

theorem LedTo.trans {first second third : Network} {reply reply' : Reply}
    (h : LedTo first second reply) (h' : LedTo second third reply') : LedTo first third reply' := by
  obtain ⟨passed, later, requests, sent, rfl, rfl⟩ := h
  obtain ⟨passed', later', requests', sent', met, rfl⟩ := h'
  injection met with replies same
  refine ⟨passed ++ reply :: passed', later', requests, sent ++ sent', ?_, ?_⟩
  · rw [replies]
    simp
  · rw [← same, List.append_assoc]

theorem Response.within_of_complete {timeout : Option Duration} {response : Response}
    (complete : (response.within timeout).ending = .complete) :
    response.within timeout = response := by
  obtain ⟨status, declared, location, chunks, ending⟩ := response
  cases ending with
  | complete | broken => rfl
  | stalled =>
    cases timeout <;> cases complete

theorem Reply.eq_of_within {timeout : Option Duration} {reply : Reply} {response : Response}
    (met : reply.within timeout = .response response) (complete : response.ending = .complete) :
    reply = .response response := by
  cases reply with
  | closed => cases met
  | stalled => cases timeout <;> cases met
  | response answer =>
    cases met
    rw [Response.within_of_complete complete]

section Get
variable {timeout : Option Duration} {before after : Network} {response : Response}

theorem exchange_ok {url : Url} (h : (exchange timeout url).on before = (.ok response, after)) :
    (∃ reply, LedTo before after reply ∧ reply.within timeout = .response response) ∨
      response = .notFound := by
  unfold exchange Step.on at h
  cases before with
  | down => cases h
  | up replies requests =>
    cases replies with
    | nil =>
      cases h
      exact .inr rfl
    | cons reply later =>
      dsimp only [List.headD_cons] at h
      split at h
      next met =>
        cases h
        exact .inl ⟨reply, ⟨[], later, requests, _, rfl, rfl⟩, met⟩
      all_goals cases h

theorem follow_ok {left : Nat} {url : Url}
    (h : (follow timeout left url).on before = (.ok response, after)) :
    (∃ reply, LedTo before after reply ∧ reply.within timeout = .response response) ∨
      response = .notFound := by
  induction left generalizing url before with
  | zero =>
    unfold follow at h
    split at h
    · cases h
    obtain ⟨met, middle, exchanged, h⟩ := Step.bind_ok h
    split at h
    · cases h
    · cases h
      exact exchange_ok exchanged
  | succ left ih =>
    unfold follow at h
    split at h
    · cases h
    obtain ⟨met, middle, exchanged, h⟩ := Step.bind_ok h
    split at h
    next redirected _ =>
      rcases exchange_ok exchanged with ⟨first, led, -⟩ | rfl
      · exact (ih h).imp (fun ⟨reply, leads, met⟩ => ⟨reply, led.trans leads, met⟩) id
      · cases redirected
    · cases h
      exact exchange_ok exchanged

theorem get_ok {text : String} (h : (get timeout text).on before = (.ok response, after))
    (success : isSuccess response.status = true) (complete : response.ending = .complete) :
    Met before after response := by
  unfold get at h
  split at h
  · cases h
  · rcases follow_ok h with ⟨reply, led, met⟩ | rfl
    · rwa [Reply.eq_of_within met complete] at led
    · cases success

end Get

theorem get_of_answer {text : String} {url : Url} (timeout : Option Duration)
    (response : Response) (later : List Reply) (requests : List String)
    (parsed : Url.parse? text = some url)
    (requestable : isRequestable url.withoutCredentials = true)
    (here : isRedirection response.status = false) (complete : response.ending = .complete) :
    ∃ sent, (get timeout text).on (.up (.response response :: later) requests) =
      (.ok response, .up later sent) := by
  have whole : (Reply.response response).within timeout = .response response := by
    rw [Reply.within, Response.within, complete, Ending.within, ← complete]
  have met : (exchange timeout url.withoutCredentials).on
      (.up (.response response :: later) requests) = (.ok response, .up later
        (requests ++ ["GET " ++ String.ofList url.withoutCredentials.target])) := by
    unfold exchange Step.on
    simp only [List.headD_cons, whole, List.tail_cons]
  refine ⟨requests ++ ["GET " ++ String.ofList url.withoutCredentials.target], ?_⟩
  rw [get, parsed]
  dsimp only
  unfold follow
  simp only [requestable, Bool.not_true, Bool.false_eq_true, if_false]
  rw [Step.bind_of_ok met, here]
  rfl

end AttachmentFetch.Http
