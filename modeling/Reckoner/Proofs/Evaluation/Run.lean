import Reckoner.Proofs.Agreement

/-!
# `Reckoner.Proofs.Evaluation.Run`: an evaluation, token by token

An evaluation goes over the tokens of any formula, whether it keeps the rules of the grammar or
not. Between two tokens it has two stacks and knows what is in front (`Move.Context`). This file
says once what the next token can do to them, so that what holds throughout an evaluation is
shown case by case and without a look at how the moves are made.

* `Stacks.TakesIn`: a token is taken in, with the stacks and the context behind it.
* `Stacks.StopsAt`: the evaluation fails at a token.
* `Stacks.AsksFor`: the moves of a token, what comes of all of them, and of some of them.
* `Stacks.EndsIn`: what comes of the stacks at the end.
* `Stacks.Reaches`: where tokens that are taken in lead.
* `Formula.cases_evaluate`: an evaluation fails at one of the tokens, or it reaches the end.
  What that means for a failure, a value and what is left over is said behind it.
-/

set_option autoImplicit false

namespace Reckoner

open Move (Context)

/-- Whether no sign is in front that waits for what it belongs to. -/
def Move.Context.unsigned : Context → Bool
  | start | inside => true
  | sign _ _ => false

/-! ### How an operator fails -/

/-- The failures of an operator at a place: an operand is missing, or the arithmetic has no
answer. -/
inductive Operator.FailsWith (op : Operator) (pos : Nat) : Failure → Prop where
  | missing : op.FailsWith pos (.missingOperand op pos)
  | division : op = .div → op.FailsWith pos (.divisionByZero pos)
  | power (base exponent : Float) : op = .pow → op.FailsWith pos (.undefinedPower base exponent pos)

/-- With both operands there, only a quotient and a power can fail, and at the operator's
place. -/
theorem Operator.failsWith_of_apply_eq_error {op : Operator} {a b : Float} {pos : Nat}
    {e : Failure} (h : op.apply a b pos = .error e) : op.FailsWith pos e := by
  cases op with
  | add => cases h
  | sub => cases h
  | mul => cases h
  -- Only a zero divisor and a power outside of its domain are refused.
  | div =>
      rw [apply] at h
      split at h
      · cases h
        exact .division rfl
      · cases h
  | pow =>
      rw [apply] at h
      split at h
      · cases h
      · cases h
        exact .power a b rfl

namespace Stacks

/-- An operator fails for want of operands or in the arithmetic, and always at its own place. -/
theorem failsWith_of_applyLatest_eq_error {op : Operator} {pos : Nat} {operands : List Float}
    {e : Failure} (h : applyLatest op pos operands = .error e) : op.FailsWith pos e := by
  rcases operands with _ | ⟨b, _ | ⟨a, rest⟩⟩
  · cases h
    exact .missing
  · cases h
    exact .missing
  · rcases bind_eq_error h with happly | ⟨v, -, hv⟩
    · exact Operator.failsWith_of_apply_eq_error happly
    · cases hv

/-- Settling fails with one of the operators that wait. -/
theorem exists_failsWith_of_settle_eq_error {due : Operator → Bool} {operands : List Float}
    {waiting : List Waiting} {e : Failure} (h : settle due operands waiting = .error e) :
    ∃ op pos, .operator op pos ∈ waiting ∧ op.FailsWith pos e := by
  induction waiting generalizing operands with
  | nil => cases h
  | cons w waiting ih =>
      cases w with
      | group pos => cases h
      | operator op pos =>
          cases hdue : due op with
          | false =>
              rw [settle_of_not_due hdue] at h
              cases h
          | true =>
              rw [settle_of_due hdue] at h
              rcases bind_eq_error h with happly | ⟨left, -, hrest⟩
              · exact ⟨op, pos, List.mem_cons_self, failsWith_of_applyLatest_eq_error happly⟩
              · -- The operator on top has been applied, so it is one further down.
                obtain ⟨o, p, hmem, hfails⟩ := ih hrest
                exact ⟨o, p, List.mem_cons_of_mem _ hmem, hfails⟩

/-! ### One token -/

/-- A token that is taken in: what is in front of it and the stacks, and both behind it. -/
inductive TakesIn : Context → Stacks → Located Token → Context → Stacks → Prop where
  /-- A number is an operand. -/
  | number {ctx : Context} {s : Stacks} (pos : Nat) (v : Float) : ctx.unsigned = true →
      TakesIn ctx s ⟨pos, .number v⟩ .inside ⟨v :: s.operands, s.waiting⟩
  /-- A sign becomes part of a number. -/
  | signedNumber {s : Stacks} (op : Operator) (place pos : Nat) (v : Float) :
      TakesIn (.sign op place) s ⟨pos, .number v⟩ .inside
        ⟨op.signFactor * v :: s.operands, s.waiting⟩
  /-- A sign becomes a factor of the power that a number is the base of. -/
  | signedBase {s : Stacks} (op : Operator) (place pos : Nat) (v : Float) :
      TakesIn (.sign op place) s ⟨pos, .number v⟩ .inside
        ⟨v :: op.signFactor :: s.operands, .operator .mul place :: s.waiting⟩
  /-- A `(` opens a group. -/
  | opening {ctx : Context} {s : Stacks} (pos : Nat) : ctx.unsigned = true →
      TakesIn ctx s ⟨pos, .opening⟩ .start ⟨s.operands, .group pos :: s.waiting⟩
  /-- A sign becomes a factor of the group behind it. -/
  | signedOpening {s : Stacks} (op : Operator) (place pos : Nat) :
      TakesIn (.sign op place) s ⟨pos, .opening⟩ .start
        ⟨op.signFactor :: s.operands, .group pos :: .operator .mul place :: s.waiting⟩
  /-- A `)` settles the innermost group and closes it. -/
  | closing {ctx : Context} {s settled : Stacks} {outer : List Waiting} (pos place : Nat) :
      ctx.unsigned = true → settle (fun _ => true) s.operands s.waiting = .ok settled →
      settled.waiting = .group place :: outer →
      TakesIn ctx s ⟨pos, .closing⟩ .inside ⟨settled.operands, outer⟩
  /-- A sign at the start of a sum waits for what it belongs to. -/
  | sign {s : Stacks} (pos : Nat) {op : Operator} : op.isSign = true →
      TakesIn .start s ⟨pos, .operator op⟩ (.sign op pos) s
  /-- Any other operator settles what binds before it, and waits. -/
  | operator {ctx : Context} {s settled : Stacks} (pos : Nat) {op : Operator} :
      ctx = .inside ∨ ctx = .start ∧ op.isSign = false →
      settle (·.bindsBefore op) s.operands s.waiting = .ok settled →
      TakesIn ctx s ⟨pos, .operator op⟩ .inside
        ⟨settled.operands, .operator op pos :: settled.waiting⟩

/-- A token at which an evaluation fails. -/
inductive StopsAt : Context → Stacks → Located Token → Failure → Prop where
  /-- The token is a foreign character. -/
  | foreign {ctx : Context} {s : Stacks} (pos : Nat) (c : Char) :
      StopsAt ctx s ⟨pos, .foreign c⟩ (.malformed (.foreignChar c pos))
  /-- The sign in front of the token can belong to nothing. -/
  | missing {s : Stacks} {t : Located Token} (op : Operator) (place : Nat) :
      StopsAt (.sign op place) s t (.missingOperand op place)
  /-- An operator fails that is settled. -/
  | settling {ctx : Context} {s : Stacks} {t : Located Token} {op : Operator} {place : Nat}
      {e : Failure} : .operator op place ∈ s.waiting → op.FailsWith place e → StopsAt ctx s t e
  /-- The token is a `)` that finds no group. -/
  | unmatched {ctx : Context} {s settled : Stacks} (pos : Nat) :
      settle (fun _ => true) s.operands s.waiting = .ok settled →
      (∀ place outer, settled.waiting ≠ .group place :: outer) →
      StopsAt ctx s ⟨pos, .closing⟩ (.unmatchedClose pos)

/-- What comes of the stacks at the end of the tokens. -/
inductive EndsIn : Context → Stacks → Except Failure Float → Prop where
  /-- A sign is at the end. -/
  | missing {s : Stacks} (op : Operator) (place : Nat) :
      EndsIn (.sign op place) s (.error (.missingOperand op place))
  /-- An operator fails that still waits. -/
  | settling {ctx : Context} {s : Stacks} {op : Operator} {place : Nat} {e : Failure} :
      .operator op place ∈ s.waiting → op.FailsWith place e → EndsIn ctx s (.error e)
  /-- A group is open, the innermost one at this place. -/
  | unclosed {ctx : Context} {s settled : Stacks} {outer : List Waiting} (pos : Nat) :
      settle (fun _ => true) s.operands s.waiting = .ok settled →
      settled.waiting = .group pos :: outer → EndsIn ctx s (.error (.unclosedGroup pos))
  /-- One operand is left. -/
  | value {ctx : Context} {s : Stacks} (v : Float) :
      settle (fun _ => true) s.operands s.waiting = .ok ⟨[v], []⟩ → EndsIn ctx s (.ok v)
  /-- No operand is left, or several are. -/
  | residual {ctx : Context} {s : Stacks} {operands : List Float} :
      settle (fun _ => true) s.operands s.waiting = .ok ⟨operands, []⟩ → operands.length ≠ 1 →
      EndsIn ctx s (.error (.residual operands.length))

/-! ### The moves of a token -/

/-- The stacks with the product of a leading sign, before what it multiplies is there. -/
def withFactor (s : Stacks) (op : Operator) (pos : Nat) : Stacks :=
  ⟨op.signFactor :: s.operands, .operator .mul pos :: s.waiting⟩

section Token

variable {ctx ctx' : Context} {s : Stacks} {t : Located Token} {tokens : List (Located Token)}
  {move : Located Move} {op : Operator} {pos : Nat}

/-- What comes of the moves of a token: it is taken in and the moves of the tokens behind it are
next, or the evaluation fails at it. -/
inductive ComesTo (ctx : Context) (s : Stacks) (t : Located Token) (tokens : List (Located Token)) :
    List (Located Move) → Except Failure Stacks → Prop where
  | takenIn {ctx' : Context} {s' : Stacks} : TakesIn ctx s t ctx' s' →
      ComesTo ctx s t tokens (Move.ofTokens ctx' tokens) (.ok s')
  | stopped {later : List (Located Move)} {e : Failure} : StopsAt ctx s t e →
      ComesTo ctx s t tokens later (.error e)

/-- A token asks for moves of its own, in front of those for the tokens behind it. Only a factor
can be carried out without the move that follows it. -/
structure AsksFor (ctx : Context) (s : Stacks) (t : Located Token) (tokens : List (Located Token))
    (own later : List (Located Move)) : Prop where
  moves_eq : Move.ofTokens ctx (t :: tokens) = own ++ later
  comesTo : ComesTo ctx s t tokens later (own.foldlM step s)
  within {moves : List (Located Move)} {s' : Stacks} : moves <+: own →
    moves.foldlM step s = .ok s' →
      moves = own ∨ s' = s ∨ ∃ op pos, ctx = .sign op pos ∧ s' = s.withFactor op pos

/-- Once its moves are carried out a token has been taken in. -/
theorem AsksFor.takesIn {own later : List (Located Move)} {s' : Stacks}
    (h : AsksFor ctx s t tokens own later) (hown : own.foldlM step s = .ok s') :
    ∃ ctx', TakesIn ctx s t ctx' s' ∧ later = Move.ofTokens ctx' tokens := by
  have hcomes := h.comesTo
  rw [hown] at hcomes
  cases hcomes with
  | takenIn htakes => exact ⟨_, htakes, rfl⟩

/-- If one of its moves fails, the evaluation stops at the token. -/
theorem AsksFor.stopsAt {own later : List (Located Move)} {e : Failure}
    (h : AsksFor ctx s t tokens own later) (hown : own.foldlM step s = .error e) :
    StopsAt ctx s t e := by
  have hcomes := h.comesTo
  rw [hown] at hcomes
  cases hcomes with
  | stopped hstops => exact hstops

/-- A single move is carried out by one step. -/
theorem foldlM_singleton (s : Stacks) (move : Located Move) : [move].foldlM step s = step s move := by
  simp only [List.foldlM_cons, List.foldlM_nil, bind_pure]

/-- A single move is carried out, or nothing is. -/
theorem eq_or_of_isPrefix_singleton {moves : List (Located Move)} {s' : Stacks}
    (hfront : moves <+: [move]) (h : moves.foldlM step s = .ok s') : moves = [move] ∨ s' = s := by
  rcases List.prefix_cons_iff.1 hfront with rfl | ⟨rest, rfl, hrest⟩
  · cases h
    exact .inr rfl
  · rw [List.prefix_nil.1 hrest]
    exact .inl rfl

/-- A token that asks for one move. -/
theorem asksFor_move
    (hmoves : Move.ofTokens ctx (t :: tokens) = move :: Move.ofTokens ctx' tokens)
    (hstep : ComesTo ctx s t tokens (Move.ofTokens ctx' tokens) (step s move)) :
    AsksFor ctx s t tokens [move] (Move.ofTokens ctx' tokens) where
  moves_eq := hmoves
  comesTo := by rwa [foldlM_singleton]
  within hfront h := (eq_or_of_isPrefix_singleton hfront h).imp_right .inl

/-- A token that asks for a factor and one more move. -/
theorem asksFor_factor
    (hmoves : Move.ofTokens (.sign op pos) (t :: tokens)
      = ⟨pos, .factor op.signFactor⟩ :: move :: Move.ofTokens ctx' tokens)
    (hstep : ComesTo (.sign op pos) s t tokens (Move.ofTokens ctx' tokens)
      (step (s.withFactor op pos) move)) :
    AsksFor (.sign op pos) s t tokens [⟨pos, .factor op.signFactor⟩, move]
      (Move.ofTokens ctx' tokens) where
  moves_eq := hmoves
  comesTo := by
    rw [← foldlM_singleton] at hstep
    exact hstep
  within := by
    intro moves s' hfront h
    rcases List.prefix_cons_iff.1 hfront with rfl | ⟨rest, rfl, hrest⟩
    · cases h
      exact .inr (.inl rfl)
    · -- With the factor carried out, the move behind it is carried out too, or it is still
      -- to come.
      rcases eq_or_of_isPrefix_singleton hrest h with rfl | rfl
      · exact .inl rfl
      · exact .inr (.inr ⟨op, pos, rfl, rfl⟩)

/-- A token at which an evaluation gives up. -/
theorem asksFor_refuse {failure : Failure}
    (hmoves : Move.ofTokens ctx (t :: tokens) = [⟨pos, .refuse failure⟩])
    (hstops : StopsAt ctx s t failure) :
    AsksFor ctx s t tokens [⟨pos, .refuse failure⟩] [] where
  moves_eq := hmoves
  comesTo := .stopped hstops
  within hfront h := (eq_or_of_isPrefix_singleton hfront h).imp_right .inl

/-- A leading sign asks for nothing as long as it is not known what it belongs to. -/
theorem asksFor_sign (hop : op.isSign = true) :
    AsksFor .start s ⟨pos, .operator op⟩ tokens [] (Move.ofTokens (.sign op pos) tokens) where
  moves_eq := if_pos hop
  comesTo := .takenIn (.sign pos hop)
  within hfront _ := .inl (List.prefix_nil.1 hfront)

/-- A `)` that no sign is in front of. -/
theorem comesTo_closing (hctx : ctx.unsigned = true) :
    ComesTo ctx s ⟨pos, .closing⟩ tokens (Move.ofTokens .inside tokens)
      (step s ⟨pos, .leave⟩) := by
  rw [step, leaveGroup_eq]
  cases hsettle : settle (fun _ => true) s.operands s.waiting with
  | error e =>
      obtain ⟨op, place, hmem, hfails⟩ := exists_failsWith_of_settle_eq_error hsettle
      exact .stopped (.settling hmem hfails)
  | ok settled =>
      rw [ok_bind, closed]
      -- What is left on top decides: a group is closed, and without one the `)` is unmatched.
      cases hw : settled.waiting with
      | nil =>
          refine .stopped (.unmatched pos hsettle ?_)
          simp [hw]
      | cons w outer =>
          cases w with
          | group place => exact .takenIn (.closing pos place hctx hsettle hw)
          -- Settling leaves no operator on top, which need not be known here.
          | operator op place =>
              refine .stopped (.unmatched pos hsettle ?_)
              simp [hw]

/-- An operator that is no leading sign. -/
theorem comesTo_operator (hctx : ctx = .inside ∨ ctx = .start ∧ op.isSign = false) :
    ComesTo ctx s ⟨pos, .operator op⟩ tokens (Move.ofTokens .inside tokens)
      (step s ⟨pos, .operator op⟩) := by
  rw [show step s ⟨pos, .operator op⟩ = s.await op pos from rfl, await]
  cases hsettle : settle (·.bindsBefore op) s.operands s.waiting with
  | error e =>
      obtain ⟨o, place, hmem, hfails⟩ := exists_failsWith_of_settle_eq_error hsettle
      exact .stopped (.settling hmem hfails)
  | ok settled => exact .takenIn (.operator pos hctx hsettle)

/-- Any token, behind anything. -/
theorem exists_asksFor (ctx : Context) (s : Stacks) (t : Located Token)
    (tokens : List (Located Token)) : ∃ own later, AsksFor ctx s t tokens own later := by
  -- By the token and what is in front of it, as the moves of a token are made.
  obtain ⟨pos, t⟩ := t
  cases t with
  | number v =>
      cases ctx with
      | start => exact ⟨_, _, asksFor_move rfl (.takenIn (.number pos v rfl))⟩
      | inside => exact ⟨_, _, asksFor_move rfl (.takenIn (.number pos v rfl))⟩
      -- What becomes of a sign depends on the token behind the number.
      | sign op place =>
          cases hraised : Move.raised tokens with
          | true =>
              exact ⟨_, _, asksFor_factor (if_pos hraised) (.takenIn (.signedBase op place pos v))⟩
          | false =>
              have hnot : ¬ Move.raised tokens = true := by simp [hraised]
              exact ⟨_, _, asksFor_move (if_neg hnot) (.takenIn (.signedNumber op place pos v))⟩
  | operator op =>
      cases ctx with
      | start =>
          cases hop : op.isSign with
          | true => exact ⟨_, _, asksFor_sign hop⟩
          | false =>
              have hnot : ¬ op.isSign = true := by simp [hop]
              exact ⟨_, _, asksFor_move (if_neg hnot) (comesTo_operator (.inr ⟨rfl, hop⟩))⟩
      | inside => exact ⟨_, _, asksFor_move rfl (comesTo_operator (.inl rfl))⟩
      | sign other place => exact ⟨_, _, asksFor_refuse rfl (.missing other place)⟩
  | opening =>
      cases ctx with
      | start => exact ⟨_, _, asksFor_move rfl (.takenIn (.opening pos rfl))⟩
      | inside => exact ⟨_, _, asksFor_move rfl (.takenIn (.opening pos rfl))⟩
      | sign op place =>
          exact ⟨_, _, asksFor_factor rfl (.takenIn (.signedOpening op place pos))⟩
  | closing =>
      cases ctx with
      | start => exact ⟨_, _, asksFor_move rfl (comesTo_closing rfl)⟩
      | inside => exact ⟨_, _, asksFor_move rfl (comesTo_closing rfl)⟩
      | sign op place => exact ⟨_, _, asksFor_refuse rfl (.missing op place)⟩
  | foreign c =>
      cases ctx with
      | start => exact ⟨_, _, asksFor_refuse rfl (.foreign pos c)⟩
      | inside => exact ⟨_, _, asksFor_refuse rfl (.foreign pos c)⟩
      | sign op place => exact ⟨_, _, asksFor_refuse rfl (.foreign pos c)⟩

/-- What a token can do: the evaluation fails at it, or goes on behind it. -/
theorem proceeds (ctx : Context) (s : Stacks) (t : Located Token) (tokens : List (Located Token)) :
    (∃ e, StopsAt ctx s t e ∧ s.finish (Move.ofTokens ctx (t :: tokens)) = .error e) ∨
      ∃ ctx' s', TakesIn ctx s t ctx' s' ∧
        s.finish (Move.ofTokens ctx (t :: tokens)) = s'.finish (Move.ofTokens ctx' tokens) := by
  obtain ⟨own, later, h⟩ := exists_asksFor ctx s t tokens
  rw [h.moves_eq, finish_append]
  cases hown : own.foldlM step s with
  | error e => exact .inl ⟨e, h.stopsAt hown, rfl⟩
  | ok s' =>
      obtain ⟨ctx', htakes, hlater⟩ := h.takesIn hown
      refine .inr ⟨ctx', s', htakes, ?_⟩
      rw [ok_bind, hlater]

end Token

/-! ### The end -/

/-- How an evaluation ends at the end of its tokens, when no sign is left without an operand: what
waits is settled, and then a group is open, or the operands are counted. -/
theorem endsIn_result (ctx : Context) (s : Stacks) : EndsIn ctx s s.result := by
  rw [result_eq]
  cases hsettle : settle (fun _ => true) s.operands s.waiting with
  | error e =>
      obtain ⟨op, place, hmem, hfails⟩ := exists_failsWith_of_settle_eq_error hsettle
      exact .settling hmem hfails
  | ok settled =>
      have hfrom := settledFrom_of_settle_eq_ok hsettle
      obtain ⟨operands, waiting⟩ := settled
      rw [ok_bind]
      cases waiting with
      | nil =>
          rcases operands with _ | ⟨v, _ | ⟨w, rest⟩⟩
          · exact .residual hsettle (by simp)
          · exact .value v hsettle
          · exact .residual hsettle (by simp)
      | cons w outer =>
          cases w with
          | group pos => exact .unclosed pos hsettle rfl
          -- All operators have been settled that no group is above.
          | operator op pos => cases hfrom.not_due op pos outer rfl

/-- The same in any context. A sign at the end is refused before anything is settled. -/
theorem endsIn_finish (ctx : Context) (s : Stacks) :
    EndsIn ctx s (s.finish (Move.ofTokens ctx [])) := by
  cases ctx with
  | start => exact endsIn_result .start s
  | inside => exact endsIn_result .inside s
  | sign op place => exact .missing op place

/-! ### All tokens -/

/-- Where tokens lead that are taken in one after the other from the start on. -/
inductive Reaches : List (Located Token) → Context → Stacks → Prop where
  | start : Reaches [] .start {}
  | step {before : List (Located Token)} {ctx ctx' : Context} {s s' : Stacks}
      {t : Located Token} : Reaches before ctx s → TakesIn ctx s t ctx' s' →
      Reaches (before ++ [t]) ctx' s'

/-- The tokens to come behind those that have been taken in. -/
theorem cases_finish (tokens : List (Located Token)) :
    ∀ (before : List (Located Token)) (ctx : Context) (s : Stacks), Reaches before ctx s →
      (∃ front t after ctx' s' e, before ++ tokens = front ++ t :: after ∧
        Reaches front ctx' s' ∧ StopsAt ctx' s' t e ∧
          s.finish (Move.ofTokens ctx tokens) = .error e) ∨
      ∃ ctx' s', Reaches (before ++ tokens) ctx' s' ∧
        EndsIn ctx' s' (s.finish (Move.ofTokens ctx tokens)) := by
  -- On the tokens to come. Those that are behind are kept in `before`, and grow at their end.
  induction tokens with
  | nil =>
      intro before ctx s h
      refine .inr ⟨ctx, s, ?_, endsIn_finish ctx s⟩
      rwa [List.append_nil]
  | cons t tokens ih =>
      intro before ctx s h
      rcases proceeds ctx s t tokens with ⟨e, hstops, hfinish⟩ | ⟨ctx', s', htakes, hfinish⟩
      · exact .inl ⟨before, t, tokens, ctx, s, e, rfl, h, hstops, hfinish⟩
      · have hrest := ih (before ++ [t]) ctx' s' (.step h htakes)
        rwa [List.append_assoc, List.singleton_append, ← hfinish] at hrest

end Stacks

/-- An evaluation fails at a token, behind those in front of it, or it reaches the end of the
tokens. -/
theorem Formula.cases_evaluate (f : Formula) :
    (∃ before t after ctx s e, f.tokens = before ++ t :: after ∧
      Stacks.Reaches before ctx s ∧ Stacks.StopsAt ctx s t e ∧ f.evaluate = .error e) ∨
    ∃ ctx s, Stacks.Reaches f.tokens ctx s ∧ Stacks.EndsIn ctx s f.evaluate :=
  Stacks.cases_finish f.tokens [] .start {} .start

namespace Formula

variable {f : Formula}

/-- Where a failure comes up: at a token, or at the end. -/
theorem cases_of_evaluate_eq_error {e : Failure} (h : f.evaluate = .error e) :
    (∃ before t after ctx s, f.tokens = before ++ t :: after ∧
      Stacks.Reaches before ctx s ∧ Stacks.StopsAt ctx s t e) ∨
    ∃ ctx s, Stacks.Reaches f.tokens ctx s ∧ Stacks.EndsIn ctx s (.error e) := by
  rcases f.cases_evaluate with
    ⟨before, t, after, ctx, s, e', htokens, hreaches, hstops, he⟩ | ⟨ctx, s, hreaches, hends⟩
  · cases he.symm.trans h
    exact .inl ⟨before, t, after, ctx, s, htokens, hreaches, hstops⟩
  · rw [h] at hends
    exact .inr ⟨ctx, s, hreaches, hends⟩

/-- A value is what is left at the end when all operators are settled. -/
theorem exists_settle_of_evaluate_eq_ok {v : Float} (h : f.evaluate = .ok v) :
    ∃ ctx s, Stacks.Reaches f.tokens ctx s ∧
      Stacks.settle (fun _ => true) s.operands s.waiting = .ok ⟨[v], []⟩ := by
  rcases f.cases_evaluate with ⟨_, _, _, _, _, _, -, -, -, he⟩ | ⟨ctx, s, hreaches, hends⟩
  · cases he.symm.trans h
  · rw [h] at hends
    cases hends with
    | value v hsettle => exact ⟨ctx, s, hreaches, hsettle⟩

/-- What is left over is left at the end when all operators are settled. -/
theorem exists_settle_of_evaluate_eq_residual {n : Nat} (h : f.evaluate = .error (.residual n)) :
    ∃ ctx s operands, Stacks.Reaches f.tokens ctx s ∧
      Stacks.settle (fun _ => true) s.operands s.waiting = .ok ⟨operands, []⟩ ∧
        operands.length = n ∧ n ≠ 1 := by
  rcases cases_of_evaluate_eq_error h with ⟨_, _, _, _, _, -, -, hstops⟩ | ⟨ctx, s, hreaches, hends⟩
  · cases hstops with
    | settling hmem hfails => cases hfails
  · cases hends with
    | settling hmem hfails => cases hfails
    | residual hsettle hne => exact ⟨ctx, s, _, hreaches, hsettle, rfl, hne⟩

end Formula

end Reckoner
