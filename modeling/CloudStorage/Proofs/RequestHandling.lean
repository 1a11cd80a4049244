import CloudStorage.Proofs.Credentials
import CloudStorage.Proofs.RequestFraming

/-!
# From bytes to requests

What the session makes of the events of a request is what `Session.request` makes of the
request. So a connection whose reads come in time goes through the states of `connection`.
-/

namespace CloudStorage.Proofs
open Dialogue

variable {σ : Type} {env : (i : Action) → σ → Option (i.Answer × σ)} {b : Base64}

lemma run_handleAll_append (xs ys : List HttpEvent) (s : Session) (e : σ) :
    (s.handleAll b (xs ++ ys)).run env e =
      ((s.handleAll b xs).run env e).bind (fun y => (y.1.handleAll b ys).run env y.2) := by
  induction xs generalizing s e with
  | nil => rfl
  | cons x xs ih =>
    rw [List.cons_append, Session.handleAll, Session.handleAll, run_bind, run_bind,
      Option.bind_assoc]
    congr 1
    funext y
    exact ih y.1 y.2

lemma run_handleAll_one (x : HttpEvent) (s : Session) (e : σ) :
    (s.handleAll b [x]).run env e = (s.handle b x).run env e := by
  rw [Session.handleAll, run_bind]
  exact Option.bind_fun_some _

lemma run_handleAll_headers (headers : List Str) (s : Session) (e : σ) :
    (s.handleAll b (headers.map .header)).run env e =
      (headers.foldlM Session.headerLine s).map (fun t => (t, e)) := by
  induction headers generalizing s with
  | nil => rfl
  | cons l headers ih =>
    rw [List.map_cons, Session.handleAll, run_bind, Session.handle, run_ofOption,
      List.foldlM_cons]
    cases s.headerLine l with
    | none => rfl
    | some t => exact ih t

lemma commandLine_eq (s : Session) (r : Request) :
    s.commandLine r.method r.target = s.requestLine r := rfl

/-- The events of a request are one step of the connection. -/
theorem run_handleAll_request (r : Request) (s : Session) (e : σ) :
    (s.handleAll b (eventsOf r)).run env e = (connection b env).next (s, e) r := by
  have hreceived : (s.handleAll b (.command r.method r.target :: r.headers.map .header)).run env e
      = (s.received r).map (fun t => (t, e)) := by
    rw [Session.handleAll, run_bind, Session.handle, run_ofOption, commandLine_eq,
      Session.received]
    cases s.requestLine r with
    | none => rfl
    | some u => exact run_handleAll_headers r.headers u e
  rw [eventsOf, run_handleAll_append, hreceived]
  unfold connection Session.request
  dsimp only
  rw [run_bind, run_ofOption]
  cases s.received r with
  | none => rfl
  | some t =>
    rw [Option.map_some, Option.bind_some, Option.bind_some, run_handleAll_one]
    dsimp only
    by_cases hc : r.content = []
    · rw [if_pos hc, if_pos hc, Session.handle, run_bind, run_bind]
      cases (generateReply b (t.checked false)).run env e <;> rfl
    · rw [if_neg hc, if_neg hc, Session.handle, run_bind, run_bind]
      cases (Session.requestContent b r.content t).run env e with
      | none => rfl
      | some y =>
        rw [Option.bind_some, Option.bind_some]
        dsimp only
        split
        · rw [run_bind, run_bind]
          cases (Session.download b r.content (y.1.checked true)).run env y.2 <;> rfl
        · rw [run_bind, run_bind]
          cases (generateReply b (y.1.checked true)).run env y.2 <;> rfl

lemma run_handleAll_requests (rs : List Request) (s : Session) (e : σ) :
    (s.handleAll b (rs.flatMap eventsOf)).run env e = (connection b env).exec (s, e) rs := by
  induction rs generalizing s e with
  | nil => rfl
  | cons r rs ih =>
    rw [List.flatMap_cons, run_handleAll_append, run_handleAll_request, System.exec]
    congr 1
    funext y
    exact ih y.1 y.2

/-- A connection whose reads come in time handles its requests one after another. -/
theorem reads_refine_connection {rs : List Request} {pieces : List Str}
    (hnul : ∀ r ∈ rs, NulFree r) (h : pieces.flatten = rs.flatMap requestBytes)
    (hannounced : ∀ r ∈ rs, Announces r) (htimely : Timely rs [] pieces) (s : Session) (e : σ) :
    (s.handleAll b (readPieces pieces ({}, []))).run env e = (connection b env).exec (s, e) rs := by
  have hstart : resume {} [] pieces = readPieces pieces ({}, []) := resume_none (by rfl) {} pieces
  have hevents := (resume_requests_iff hnul (Int.le_refl 0) h).mpr ⟨hannounced, htimely⟩
  rw [← hstart, hevents]
  exact run_handleAll_requests rs s e

end CloudStorage.Proofs
