import Mathlib.Data.Nat.Notation
import Mathlib.Logic.Relation

set_option autoImplicit false

/-! # Clients of a shared service

A `Client` is a program that sends requests to a service one at a time and fails or returns in the
end. Its code is pure: all it learns comes through the replies.

A service is a relation `handle before request reply after`, which takes each request in one step.
Between the requests of one client the state may change under it: those are the steps of a second
relation `foreign`. An `Exec` is an execution of one client in any such interleaving, with the list
of what happened. Inversion lemmas take an execution of a composed client apart
(`Exec.bind_ok`, `Exec.ask_bind_ok`), and an invariant rule carries a property along the foreign steps
between two requests (`Foreigns.invariant`). What all requests of a client have in common is read off
its code (`Client.Meets`) and holds of everything it gets served (`Exec.served_of_meets`), and so is
how many requests there are (`Client.SendsAtMost`, `Exec.length_exchanges_le`). -/

/-- A client program with failures in `ε`. -/
inductive Client (Req Rep ε α : Type) where
  | done (result : Except ε α)
  | send (req : Req) (next : Rep → Client Req Rep ε α)

namespace Client

variable {Req Rep ε ε' α β : Type}

/-- Continue with `f` unless the client fails. -/
def bind : Client Req Rep ε α → (α → Client Req Rep ε β) → Client Req Rep ε β
  | done (.ok a), f => f a
  | done (.error e), _ => done (.error e)
  | send req next, f => send req (fun rep => (next rep).bind f)

instance : Monad (Client Req Rep ε) where
  pure a := done (.ok a)
  bind := bind

/-- A computation without requests. -/
def ofExcept (result : Except ε α) : Client Req Rep ε α := done result

/-- Send one request and read its reply. -/
def ask (read : Rep → Except ε α) (req : Req) : Client Req Rep ε α :=
  send req (fun rep => done (read rep))

/-- Replace the failure of a client. -/
def mapErr (f : ε → ε') : Client Req Rep ε α → Client Req Rep ε' α
  | done result => done (result.mapError f)
  | send req next => send req (fun rep => (next rep).mapErr f)

/-- Run a client and continue with its failure as a value. -/
def attempt : Client Req Rep ε α → Client Req Rep ε (Except ε α)
  | done result => done (.ok result)
  | send req next => send req (fun rep => (next rep).attempt)

theorem mapErr_ask (f : ε → ε') (read : Rep → Except ε α) (req : Req) :
    (ask read req).mapErr f = ask (fun rep => (read rep).mapError f) req := rfl

theorem attempt_ask (read : Rep → Except ε α) (req : Req) :
    (ask read req).attempt = ask (fun rep => (.ok (read rep) : Except ε _)) req := rfl

/-- The result of a client whose requests are answered by a function. -/
def run (respond : Req → Rep) : Client Req Rep ε α → Except ε α
  | done result => result
  | send req next => (next (respond req)).run respond

theorem run_bind (respond : Req → Rep) (c : Client Req Rep ε α) (f : α → Client Req Rep ε β) :
    (c >>= f).run respond = c.run respond >>= fun a => (f a).run respond := by
  induction c with
  | done result => cases result <;> rfl
  | send req next ih => exact ih (respond req)

/-! ### What a client may send and return -/

/-- Whatever the replies are, all requests of the client satisfy `Q`, and all its results `R`. -/
def Meets (Q : Req → Prop) (R : α → Prop) : Client Req Rep ε α → Prop
  | done (.ok a) => R a
  | done (.error _) => True
  | send req next => Q req ∧ ∀ rep, (next rep).Meets Q R

variable {Q : Req → Prop} {R : α → Prop} {R' : β → Prop}

theorem meets_ofExcept {x : Except ε α} (h : ∀ a, x = .ok a → R a) :
    (ofExcept x : Client Req Rep ε α).Meets Q R := by
  cases x with
  | ok a => exact h a rfl
  | error e => exact trivial

theorem meets_ask {read : Rep → Except ε α} {req : Req} (hreq : Q req)
    (h : ∀ rep a, read rep = .ok a → R a) : (ask read req).Meets Q R :=
  ⟨hreq, fun rep => meets_ofExcept (h rep)⟩

theorem Meets.bind {c : Client Req Rep ε α} {f : α → Client Req Rep ε β} (hc : c.Meets Q R)
    (hf : ∀ a, R a → (f a).Meets Q R') : (c >>= f).Meets Q R' := by
  induction c with
  | done result =>
      cases result with
      | ok a => exact hf a hc
      | error e => exact trivial
  | send req next ih => exact ⟨hc.1, fun rep => ih rep (hc.2 rep)⟩

/-- Whatever the replies are, the client sends at most `n` requests. -/
def SendsAtMost : ℕ → Client Req Rep ε α → Prop
  | _, done _ => True
  | 0, send _ _ => False
  | n + 1, send _ next => ∀ rep, (next rep).SendsAtMost n

theorem sendsAtMost_done (n : ℕ) (result : Except ε α) :
    (done result : Client Req Rep ε α).SendsAtMost n := by
  cases n <;> exact trivial

theorem SendsAtMost.mono {n m : ℕ} {c : Client Req Rep ε α} (h : c.SendsAtMost n) (hle : n ≤ m) :
    c.SendsAtMost m := by
  induction c generalizing n m with
  | done result => exact sendsAtMost_done _ _
  | send req next ih =>
      cases n with
      | zero => exact h.elim
      | succ n =>
          cases m with
          | zero => exact absurd hle (Nat.not_succ_le_zero n)
          | succ m => exact fun rep => ih rep (h rep) (Nat.le_of_succ_le_succ hle)

theorem SendsAtMost.bind {n m : ℕ} {c : Client Req Rep ε α} {f : α → Client Req Rep ε β}
    (hc : c.SendsAtMost n) (hf : ∀ a, (f a).SendsAtMost m) : (c >>= f).SendsAtMost (m + n) := by
  induction c generalizing n with
  | done result =>
      cases result with
      | ok a => exact (hf a).mono (Nat.le_add_right m n)
      | error e => exact sendsAtMost_done _ _
  | send req next ih =>
      cases n with
      | zero => exact hc.elim
      | succ n => exact fun rep => ih rep (hc rep)

/-! ### Replies that a client refuses -/

/-- After a bad reply the client fails with `e` at once, whenever the reply comes. -/
def Refuses (bad : Rep → Prop) (e : ε) : Client Req Rep ε α → Prop
  | done _ => True
  | send _ next => ∀ rep, (bad rep → next rep = done (.error e)) ∧ (next rep).Refuses bad e

variable {bad : Rep → Prop} {e : ε}

theorem refuses_ofExcept (x : Except ε α) :
    (ofExcept x : Client Req Rep ε α).Refuses bad e := trivial

theorem refuses_ofExcept_bind {x : Except ε α} {f : α → Client Req Rep ε β}
    (hf : ∀ a, x = .ok a → (f a).Refuses bad e) :
    (ofExcept x >>= f : Client Req Rep ε β).Refuses bad e := by
  cases x with
  | ok a => exact hf a rfl
  | error e' => exact trivial

/-- A bad reply must be read, and then what it is read as must be refused. -/
theorem refuses_ask_bind {read : Rep → Except ε α} {req : Req} {f : α → Client Req Rep ε β}
    (hread : ∀ rep, bad rep → ∃ a, read rep = .ok a ∧ f a = done (.error e))
    (hf : ∀ a, (f a).Refuses bad e) : (ask read req >>= f).Refuses bad e := by
  intro rep
  constructor
  · intro hbad
    obtain ⟨a, ha, hfa⟩ := hread rep hbad
    have hnext : (ofExcept (read rep) >>= f : Client Req Rep ε β) = done (.error e) := by
      rw [ha]
      exact hfa
    exact hnext
  · exact refuses_ofExcept_bind fun a _ => hf a

end Client

/-! ## Executions -/

/-- What happens in an execution. -/
inductive Event (σ Req Rep : Type) where
  | foreign (before after : σ)
  | served (before : σ) (req : Req) (rep : Rep) (after : σ)

section Exec

variable {σ Req Rep ε ε' α β : Type}

/-- A stretch of foreign steps from one state to another. -/
inductive Foreigns (foreign : σ → σ → Prop) : List (Event σ Req Rep) → σ → σ → Prop
  | nil {s : σ} : Foreigns foreign [] s s
  | cons {s t u : σ} {es : List (Event σ Req Rep)} (hstep : foreign s t)
      (hrest : Foreigns foreign es t u) : Foreigns foreign (.foreign s t :: es) s u

/-- An execution of a client from one state to another, with its events and its result. -/
inductive Exec (handle : σ → Req → Rep → σ → Prop) (foreign : σ → σ → Prop) :
    Client Req Rep ε α → σ → List (Event σ Req Rep) → Except ε α → σ → Prop
  | done {s : σ} {result : Except ε α} : Exec handle foreign (.done result) s [] result s
  | foreign {s t u : σ} {c : Client Req Rep ε α} {es : List (Event σ Req Rep)}
      {result : Except ε α} (hstep : foreign s t) (hrest : Exec handle foreign c t es result u) :
      Exec handle foreign c s (.foreign s t :: es) result u
  | served {s t u : σ} {req : Req} {rep : Rep} {next : Rep → Client Req Rep ε α}
      {es : List (Event σ Req Rep)} {result : Except ε α} (hserved : handle s req rep t)
      (hrest : Exec handle foreign (next rep) t es result u) :
      Exec handle foreign (.send req next) s (.served s req rep t :: es) result u

variable {handle : σ → Req → Rep → σ → Prop} {foreign : σ → σ → Prop} {s t u : σ}
  {es es' : List (Event σ Req Rep)}

/-- What the client has sent and received, in order. -/
def exchanges : List (Event σ Req Rep) → List (Req × Rep)
  | [] => []
  | .foreign _ _ :: es => exchanges es
  | .served _ req rep _ :: es => (req, rep) :: exchanges es

@[simp] theorem exchanges_append (es es' : List (Event σ Req Rep)) :
    exchanges (es ++ es') = exchanges es ++ exchanges es' := by
  induction es with
  | nil => rfl
  | cons e es ih => cases e <;> simp [exchanges, ih]

/-! ### Building executions -/

theorem Exec.ofExcept {x : Except ε α} {a : α} (hx : x = .ok a) :
    Exec handle foreign (Client.ofExcept x : Client Req Rep ε α) s [] (.ok a) s := by
  subst hx
  exact .done

theorem Exec.ofExcept_bind {x : Except ε α} {a : α} {f : α → Client Req Rep ε β}
    {result : Except ε β} (hx : x = .ok a) (hrest : Exec handle foreign (f a) s es result u) :
    Exec handle foreign (Client.ofExcept x >>= f) s es result u := by
  subst hx
  exact hrest

theorem Exec.ask_bind {read : Rep → Except ε α} {req : Req} {rep : Rep} {a : α}
    {f : α → Client Req Rep ε β} {result : Except ε β} (hserved : handle s req rep t)
    (hread : read rep = .ok a) (hrest : Exec handle foreign (f a) t es result u) :
    Exec handle foreign (Client.ask read req >>= f) s (.served s req rep t :: es) result u :=
  .served hserved (Exec.ofExcept_bind hread hrest)

/-- Executions of two parts in a row are one of the composed client. -/
theorem Exec.bind {c : Client Req Rep ε α} {f : α → Client Req Rep ε β} {a : α}
    {result : Except ε β} (h : Exec handle foreign c s es (.ok a) t)
    (hrest : Exec handle foreign (f a) t es' result u) :
    Exec handle foreign (c >>= f) s (es ++ es') result u := by
  generalize hr : (Except.ok a : Except ε α) = r at h
  induction h with
  | done =>
      subst hr
      exact hrest
  | foreign hstep _ ih => exact .foreign hstep (ih hrest hr)
  | served hserved _ ih => exact .served hserved (ih hrest hr)

theorem Exec.foreigns {c : Client Req Rep ε α} {result : Except ε α}
    (h : Foreigns foreign es s t) (hrest : Exec handle foreign c t es' result u) :
    Exec handle foreign c s (es ++ es') result u := by
  induction h with
  | nil => exact hrest
  | cons hstep _ ih => exact .foreign hstep (ih hrest)

/-! ### Stretches of foreign steps -/

theorem Foreigns.reflTransGen (h : Foreigns foreign es s t) : Relation.ReflTransGen foreign s t := by
  induction h with
  | nil => exact .refl
  | cons hstep _ ih => exact .head hstep ih

theorem Foreigns.append (h : Foreigns foreign es s t) (h' : Foreigns foreign es' t u) :
    Foreigns foreign (es ++ es') s u := by
  induction h with
  | nil => exact h'
  | cons hstep _ ih => exact .cons hstep (ih h')

/-- Nothing is sent in a stretch of foreign steps. -/
theorem Foreigns.exchanges_eq (h : Foreigns foreign es s t) : exchanges es = [] := by
  induction h with
  | nil => rfl
  | cons _ _ ih => exact ih

/-- No request is served in a stretch of foreign steps. -/
theorem Foreigns.not_served (h : Foreigns foreign es s t) {before after : σ} {req : Req}
    {rep : Rep} : .served before req rep after ∉ es := by
  induction h with
  | nil => exact List.not_mem_nil
  | cons _ _ ih =>
      intro hmem
      rcases List.mem_cons.mp hmem with heq | hmem
      · exact absurd heq (by simp)
      · exact ih hmem

/-- What every foreign step of the stretch keeps, the stretch keeps. -/
theorem Foreigns.invariant {I : σ → Prop} (h : Foreigns foreign es s t)
    (hkeep : ∀ before after, .foreign before after ∈ es → foreign before after → I before → I after)
    (hs : I s) : I t := by
  induction h with
  | nil => exact hs
  | cons hstep _ ih =>
      apply ih
      · intro before after hmem
        exact hkeep before after (List.mem_cons_of_mem _ hmem)
      · exact hkeep _ _ List.mem_cons_self hstep hs

/-- A step of a history that is kept with its latest event first. -/
def Grows {η : Type} (history history' : List η) : Prop := ∃ event, history' = event :: history

theorem Foreigns.suffix {η : Type} {es : List (Event (List η) Req Rep)} {history history' : List η}
    (h : Foreigns Grows es history history') : history <:+ history' := by
  induction h with
  | nil => exact List.suffix_refl _
  | cons hstep _ ih =>
      obtain ⟨event, rfl⟩ := hstep
      exact (List.suffix_cons event _).trans ih

/-! ### Taking executions apart -/

/-- Every request that is served is handled, and is one that the client may send. -/
theorem Exec.served_of_meets {c : Client Req Rep ε α} {result : Except ε α} {Q : Req → Prop}
    {R : α → Prop} (h : Exec handle foreign c s es result u) (hc : c.Meets Q R) {before after : σ}
    {req : Req} {rep : Rep} (hmem : .served before req rep after ∈ es) :
    handle before req rep after ∧ Q req := by
  induction h with
  | done => exact absurd hmem List.not_mem_nil
  | foreign _ _ ih =>
      rcases List.mem_cons.mp hmem with heq | hmem
      · exact absurd heq (by simp)
      · exact ih hc hmem
  | served hserved _ ih =>
      rcases List.mem_cons.mp hmem with heq | hmem
      · cases heq
        exact ⟨hserved, hc.1⟩
      · exact ih (hc.2 _) hmem

/-- A finished client only watches foreign steps. -/
theorem Exec.done_inv {result result' : Except ε α}
    (h : Exec handle foreign (.done result : Client Req Rep ε α) s es result' u) :
    result' = result ∧ Foreigns foreign es s u := by
  generalize hc : (Client.done result : Client Req Rep ε α) = c at h
  induction h with
  | done =>
      cases hc
      exact ⟨rfl, .nil⟩
  | foreign hstep _ ih =>
      obtain ⟨hresult, hrest⟩ := ih hc
      exact ⟨hresult, .cons hstep hrest⟩
  | served => cases hc

/-- An execution with a bad reply fails as the client does. -/
theorem Exec.refuses {c : Client Req Rep ε α} {result : Except ε α} {bad : Rep → Prop} {e : ε}
    (h : Exec handle foreign c s es result u) (hc : c.Refuses bad e) {before after : σ} {req : Req}
    {rep : Rep} (hmem : .served before req rep after ∈ es) (hbad : bad rep) :
    result = .error e := by
  induction h with
  | done => exact absurd hmem List.not_mem_nil
  | foreign _ _ ih =>
      rcases List.mem_cons.mp hmem with heq | hmem
      · exact absurd heq (by simp)
      · exact ih hc hmem
  | served _ hrest ih =>
      rcases List.mem_cons.mp hmem with heq | hmem
      · cases heq
        rw [(hc _).1 hbad] at hrest
        exact (Exec.done_inv hrest).1
      · exact ih (hc _).2 hmem

/-- A request is served after some foreign steps, and the client continues with its reply. -/
theorem Exec.send_inv {req : Req} {next : Rep → Client Req Rep ε α} {result : Except ε α}
    (h : Exec handle foreign (.send req next) s es result u) :
    ∃ pre s' rep t post, es = pre ++ .served s' req rep t :: post ∧ Foreigns foreign pre s s' ∧
      handle s' req rep t ∧ Exec handle foreign (next rep) t post result u := by
  generalize hc : Client.send req next = c at h
  induction h with
  | done => cases hc
  | foreign hstep _ ih =>
      obtain ⟨pre, s', rep, t, post, rfl, hpre, hserved, hrest⟩ := ih hc
      exact ⟨_ :: pre, s', rep, t, post, rfl, .cons hstep hpre, hserved, hrest⟩
  | @served s t u req' rep next' es result hserved hrest ih =>
      cases hc
      exact ⟨[], s, rep, t, es, rfl, .nil, hserved, hrest⟩

/-- An execution of a composed client is one of its first part, and one of the rest unless the first
    part failed. -/
theorem Exec.bind_inv {c : Client Req Rep ε α} {f : α → Client Req Rep ε β} {result : Except ε β}
    (h : Exec handle foreign (c.bind f) s es result u) :
    (∃ e, Exec handle foreign c s es (.error e) u ∧ result = .error e) ∨
      ∃ es₁ es₂ a t, es = es₁ ++ es₂ ∧ Exec handle foreign c s es₁ (.ok a) t ∧
        Exec handle foreign (f a) t es₂ result u := by
  generalize hd : c.bind f = d at h
  induction h generalizing c with
  | @done s result =>
      -- A `bind` that is done comes from a first part that is: it failed, or `f` is done as well.
      match c, hd with
      | .done (.ok a), hd =>
          have hf : f a = .done result := hd
          exact .inr ⟨[], [], a, s, rfl, .done, hf ▸ .done⟩
      | .done (.error e), hd =>
          cases hd
          exact .inl ⟨e, .done, rfl⟩
  | foreign hstep _ ih =>
      rcases ih hd with ⟨e, hexec, hresult⟩ | ⟨es₁, es₂, a, t, rfl, hexec, hrest⟩
      · exact .inl ⟨e, .foreign hstep hexec, hresult⟩
      · exact .inr ⟨_ :: es₁, es₂, a, t, rfl, .foreign hstep hexec, hrest⟩
  | @served s t u req rep next es result hserved hrest ih =>
      -- The request is the first one of `f`, or still one of the first part.
      match c, hd with
      | .done (.ok a), hd =>
          have hf : f a = .send req next := hd
          exact .inr ⟨[], _, a, s, rfl, .done, hf ▸ .served hserved hrest⟩
      | .send _ next', hd =>
          cases hd
          rcases ih rfl with ⟨e, hexec, hresult⟩ | ⟨es₁, es₂, a, t', rfl, hexec, hafter⟩
          · exact .inl ⟨e, .served hserved hexec, hresult⟩
          · exact .inr ⟨_ :: es₁, es₂, a, t', rfl, .served hserved hexec, hafter⟩

/-- A composed client that succeeds has succeeded in both parts. -/
theorem Exec.bind_ok {c : Client Req Rep ε α} {f : α → Client Req Rep ε β} {b : β}
    (h : Exec handle foreign (c >>= f) s es (.ok b) u) :
    ∃ es₁ es₂ a t, es = es₁ ++ es₂ ∧ Exec handle foreign c s es₁ (.ok a) t ∧
      Exec handle foreign (f a) t es₂ (.ok b) u := by
  rcases Exec.bind_inv h with ⟨e, -, he⟩ | h
  · exact absurd he (by simp)
  · exact h

/-- A pure first step that succeeds is not seen. -/
theorem Exec.ofExcept_bind_ok {x : Except ε α} {f : α → Client Req Rep ε β} {b : β}
    (h : Exec handle foreign (Client.ofExcept x >>= f) s es (.ok b) u) :
    ∃ a, x = .ok a ∧ Exec handle foreign (f a) s es (.ok b) u := by
  cases x with
  | ok a => exact ⟨a, rfl, h⟩
  | error e => exact absurd (Exec.done_inv h).1 (by simp)

/-- A first request that succeeds is served after some foreign steps. -/
theorem Exec.ask_bind_ok {read : Rep → Except ε α} {req : Req} {f : α → Client Req Rep ε β} {b : β}
    (h : Exec handle foreign (Client.ask read req >>= f) s es (.ok b) u) :
    ∃ pre s' rep t post a, es = pre ++ .served s' req rep t :: post ∧ Foreigns foreign pre s s' ∧
      handle s' req rep t ∧ read rep = .ok a ∧ Exec handle foreign (f a) t post (.ok b) u := by
  obtain ⟨pre, s', rep, t, post, hes, hpre, hserved, hrest⟩ := Exec.send_inv h
  obtain ⟨a, ha, hrest⟩ := Exec.ofExcept_bind_ok hrest
  exact ⟨pre, s', rep, t, post, a, hes, hpre, hserved, ha, hrest⟩

/-- Whatever was exchanged was handled in a state that is reached from the first and leads to the
    last, if all steps are runs of one relation. -/
theorem Exec.exchanged {c : Client Req Rep ε α} {result : Except ε α} {step : σ → σ → Prop}
    (hforeign : ∀ {s t}, foreign s t → Relation.ReflTransGen step s t)
    (hhandle : ∀ {s req rep t}, handle s req rep t → Relation.ReflTransGen step s t)
    (h : Exec handle foreign c s es result u) {req : Req} {rep : Rep}
    (hmem : (req, rep) ∈ exchanges es) :
    ∃ before after, Relation.ReflTransGen step s before ∧ handle before req rep after ∧
      Relation.ReflTransGen step after u := by
  -- From every state of the execution the steps lead to the last one.
  have hlast : ∀ {c : Client Req Rep ε α} {s es result u},
      Exec handle foreign c s es result u → Relation.ReflTransGen step s u := by
    intro c s es result u h
    induction h with
    | done => exact .refl
    | foreign hstep _ ih => exact (hforeign hstep).trans ih
    | served hserved _ ih => exact (hhandle hserved).trans ih
  induction h with
  | done => exact absurd hmem List.not_mem_nil
  | foreign hstep _ ih =>
      obtain ⟨before, after, hbefore, hserved, hafter⟩ := ih hmem
      exact ⟨before, after, (hforeign hstep).trans hbefore, hserved, hafter⟩
  | served hserved hrest ih =>
      rcases List.mem_cons.mp hmem with heq | hmem
      · cases heq
        exact ⟨_, _, .refl, hserved, hlast hrest⟩
      · obtain ⟨before, after, hbefore, hserved', hafter⟩ := ih hmem
        exact ⟨before, after, (hhandle hserved).trans hbefore, hserved', hafter⟩

end Exec
