import CallCapture.Proofs.SpacedText
import CallCapture.Yaml.Token.Stream

namespace CallCapture.Yaml.Scanner

/-- A token that is released with some fuel is released with more. By
induction on the fuel, as each fetch uses one unit of it. -/
theorem release?_mono {s : Scanner} {fuel more : Nat} {result : Token × Scanner} (done : s.release? fuel = some result)
    (le : fuel ≤ more) : s.release? more = some result := by
  induction fuel generalizing s more with
  | zero => cases done
  | succ fuel ih =>
    obtain ⟨more, rfl⟩ := Nat.exists_eq_succ_of_ne_zero (by omega : more ≠ 0)
    have fits : fuel ≤ more := by omega
    unfold release? at done ⊢
    cases oldest : s.tokens.getLast? with
    | none =>
      rw [oldest] at done
      obtain ⟨next, fetched, later⟩ := Option.bind_eq_some_iff.mp done
      exact Option.bind_eq_some_iff.mpr ⟨next, fetched, ih later fits⟩
    | some token =>
      rw [oldest] at done
      obtain ⟨kept, fresh, later⟩ := Option.bind_eq_some_iff.mp done
      refine Option.bind_eq_some_iff.mpr ⟨kept, fresh, ?_⟩
      split
      · rename_i blocked
        rw [if_pos blocked] at later
        obtain ⟨next, fetched, rest⟩ := Option.bind_eq_some_iff.mp later
        exact Option.bind_eq_some_iff.mpr ⟨next, fetched, ih rest fits⟩
      · rename_i free
        rw [if_neg free] at later
        exact later

/-- No possible key is given up. Then nothing has to be given up before a
token is handed on. -/
def Fresh (s : Scanner) : Prop := ∀ key, some key ∈ s.keys → isStale key s.mark = false

theorem Fresh.drop {s : Scanner} (fresh : s.Fresh) : s.dropStaleKeys? = some s := by
  have none : (s.keys.any fun key => key.any fun key => isStale key s.mark && key.required) = false := by
    refine List.any_eq_false.mpr fun key member => ?_
    cases key with
    | none => exact Bool.false_ne_true
    | some key => simp [fresh key member]
  have same : (s.keys.map fun key => key.filter fun key => !isStale key s.mark) = s.keys := by
    refine (List.map_congr_left fun key member => ?_).trans (List.map_id _)
    cases key with
    | none => rfl
    | some key => simp [fresh key member]
  unfold dropStaleKeys?
  dsimp only
  rw [none, if_neg Bool.false_ne_true, same]

/-- `tokens` are had from `s` one after the other, and `next` is what is left.
Those that nothing can be put in front of any more are handed on, and more of
the document is read while there are none. The fuel is counted in tokens, so
that stretches can be put together. -/
def Yields (s : Scanner) (tokens : List Token) (next : Scanner) : Prop :=
  ∀ fuel, s.tokensFrom (fuel + tokens.length) = tokens ++ next.tokensFrom fuel

theorem Yields.trans {s middle next : Scanner} {tokens others : List Token} (first : Yields s tokens middle)
    (second : Yields middle others next) : Yields s (tokens ++ others) next := by
  intro fuel
  rw [List.length_append, Nat.add_comm tokens.length, ← Nat.add_assoc, first, second, List.append_assoc]

theorem release?_oldest {s : Scanner} {before : List Token} {token : Token} (held : s.tokens = before ++ [token])
    (fresh : s.Fresh) (free : ∀ key, some key ∈ s.keys → key.number ≠ s.released) (fuel : Nat) :
    s.release? (fuel + 1) = some (token, { s with released := s.released + 1, tokens := before }) := by
  have unblocked : (s.keys.any fun key => key.any fun key => key.number = s.released) = false := by
    refine List.any_eq_false.mpr fun key member => ?_
    cases key with
    | none => exact Bool.false_ne_true
    | some key => simp [free key member]
  rw [release?, held, List.getLast?_concat]
  dsimp only
  rw [fresh.drop]
  simp only [bind, Option.bind, unblocked, Bool.false_eq_true, if_false, held, List.dropLast_concat]
  rfl

/-- Tokens that wait in the queue are handed on in their order, as long as no
possible key in front of them is undecided. By induction on the queue from
its oldest token. -/
theorem yields_queue {s : Scanner} {later queue : List Token} (held : s.tokens = later ++ queue) (fresh : s.Fresh)
    (free : ∀ key, some key ∈ s.keys → s.released + queue.length ≤ key.number)
    (inner : ∀ token ∈ queue, token.kind ≠ .streamEnd) :
    Yields s queue.reverse { s with released := s.released + queue.length, tokens := later } := by
  induction queue using List.reverseRecOn generalizing s with
  | nil =>
    intro fuel
    rw [List.append_nil] at held
    rw [← held]
    rfl
  | append_singleton before token ih =>
    rw [← List.append_assoc] at held
    rw [List.length_append, List.length_singleton] at free
    let next : Scanner := { s with released := s.released + 1, tokens := later ++ before }
    have rest : Yields next before.reverse { next with released := next.released + before.length, tokens := later } := by
      refine ih rfl fresh (fun key member => ?_) fun other member => inner other (List.mem_append_left _ member)
      have least := free key member
      change s.released + 1 + before.length ≤ key.number
      omega
    intro fuel
    have first := release?_oldest held fresh (fun key member => by have := free key member; omega)
      (s.cursor.rest.length + 1)
    have going : token.kind ≠ .streamEnd := inner token (List.mem_append_right _ List.mem_cons_self)
    rw [List.reverse_append, List.reverse_singleton, List.singleton_append, List.length_cons, ← Nat.add_assoc, tokensFrom,
      first]
    simp only [if_neg going, List.cons_append]
    rw [rest fuel, List.length_append, List.length_singleton]
    simp only [next, Nat.add_assoc, Nat.add_comm 1]

/-- Nothing can be handed on before more is read. A scanner waits while it has
no token, or while its oldest one may have to be put behind another. -/
def Waits (s : Scanner) : Prop := ∀ fuel, s.release? (fuel + 1) = s.fetch?.bind fun next => next.release? fuel

theorem waits_of_empty {s : Scanner} (empty : s.tokens = []) : s.Waits := by
  intro fuel
  rw [release?, empty]
  rfl

theorem waits_of_key {s : Scanner} {token : Token} {key : PossibleKey} (oldest : s.tokens.getLast? = some token)
    (fresh : s.Fresh) (held : some key ∈ s.keys) (blocked : key.number = s.released) : s.Waits := by
  have found : (s.keys.any fun key => key.any fun key => key.number = s.released) = true :=
    List.any_eq_true.mpr ⟨some key, held, by simp [blocked]⟩
  intro fuel
  rw [release?, oldest]
  dsimp only
  rw [fresh.drop]
  simp only [bind, Option.bind, found, if_true]

/-- What is yielded behind a fetch is yielded without it. The fetch takes some
of the document, so the fuel that its length gives is enough. -/
theorem Yields.fetch {s next last : Scanner} {tokens : List Token} (waits : s.Waits) (fetched : s.fetch? = some next)
    (shorter : next.cursor.rest.length < s.cursor.rest.length) (yields : Yields next tokens last)
    (some : tokens ≠ []) : Yields s tokens last := by
  obtain ⟨token, others, rfl⟩ := List.exists_cons_of_ne_nil some
  intro fuel
  have whole := yields fuel
  rw [List.length_cons, ← Nat.add_assoc, tokensFrom] at whole ⊢
  cases released : next.release? (next.cursor.rest.length + 2) with
  | none =>
    rw [released] at whole
    cases whole
  | some first =>
    have same : s.release? (s.cursor.rest.length + 2) = Option.some first := by
      rw [waits, fetched]
      exact release?_mono released (by omega)
    rw [released] at whole
    rw [same]
    exact whole

/-- What is read goes on as if it had been there, if a token can be handed on
then. What has to be shown of the fuel is thereby shown once. -/
theorem tokensFrom_fetch {s next : Scanner} {before : List Token} {token : Token} (waits : s.Waits)
    (fetched : s.fetch? = some next) (held : next.tokens = before ++ [token]) (fresh : next.Fresh)
    (free : ∀ key, some key ∈ next.keys → key.number ≠ next.released) (fuel : Nat) :
    s.tokensFrom fuel = next.tokensFrom fuel := by
  cases fuel with
  | zero => rfl
  | succ fuel =>
    have same : s.release? (s.cursor.rest.length + 2) = next.release? (next.cursor.rest.length + 2) := by
      rw [waits, fetched, Option.bind_some, release?_oldest held fresh free, release?_oldest held fresh free]
    rw [tokensFrom, tokensFrom, same]

theorem isStale_below {key : PossibleKey} {mark : Mark} (below : key.mark.line < mark.line) : isStale key mark = true := by
  rw [isStale, decide_eq_true below, Bool.true_or]

theorem dropStaleKeys?_late {s : Scanner} {key : PossibleKey} (held : s.keys = [some key])
    (late : isStale key s.mark = true) (free : key.required = false) :
    s.dropStaleKeys? = some { s with keys := [none] } := by
  simp [dropStaleKeys?, held, late, free]

/-- Tokens that a possible key holds up are had as soon as it is given up. A
scalar that is no key is had in this way, when its line has ended. -/
theorem Yields.of_late {s last : Scanner} {key : PossibleKey} {tokens : List Token} (held : s.keys = [some key])
    (late : isStale key s.mark = true) (free : key.required = false) (found : s.tokens ≠ [])
    (yields : Yields { s with keys := [none] } tokens last) (wordy : tokens ≠ []) : Yields s tokens last := by
  let kept : Scanner := { s with keys := [none] }
  have again : kept.dropStaleKeys? = some kept := rfl
  have same (fuel : Nat) : s.release? (fuel + 1) = kept.release? (fuel + 1) := by
    obtain ⟨before, oldest, shape⟩ := (List.eq_nil_or_concat' s.tokens).resolve_left found
    have first : s.tokens.getLast? = some oldest := by rw [shape, List.getLast?_concat]
    rw [release?, release?, show kept.tokens = s.tokens from rfl, first]
    dsimp only
    rw [dropStaleKeys?_late held late free, again]
  obtain ⟨token, others, rfl⟩ := List.exists_cons_of_ne_nil wordy
  intro fuel
  have whole := yields fuel
  rw [List.length_cons, ← Nat.add_assoc, tokensFrom] at whole ⊢
  rw [same]
  exact whole

end CallCapture.Yaml.Scanner
