/-
What holds of a draft at any time.

Whatever spans a draft is fed, it holds the tokens of the longest part of them, from the first on, in which none is
refused; a refusal and the spans behind it leave no trace in the other fields. What it remembers besides its tokens is
said by them: the counts of the two parentheses, the kind of the last one, and where that one starts and ends. The
tokens themselves are the beginning of a formula: each may stand behind the one before it, and nowhere are there more
right parentheses than left ones, so the difference of the two counts is never cut off at zero.

- `Orderly`: tokens that stand in a row as those of a formula do.
- `Draft.After.orderly_push`, `Draft.After.orderly_feed`: one span that is accepted keeps them so, and so does a run.
- `Draft.Taken`: the spans of a list that are accepted, up to the first refusal.
- `Draft.exists_taken`: the draft behind any spans is the one behind those accepted, but for the fault.
- `Draft.exists_sound`: all that holds of a draft, whatever it has been fed.
-/
import CellFormula.Proofs.Refusal

namespace CellFormula

/-! ## Tokens in a row -/

/-- the one token may stand right in front of the other -/
def Token.Precedes (t u : Token) : Prop :=
  (t.kind ∈ [.leftParen, .operator] → u.kind ∈ [.number, .var, .leftParen]) ∧
    (t.kind ∈ [.number, .var, .rightParen] → u.kind ∈ [.operator, .rightParen])

/-- the tokens stand in a row as those of a formula do, which may not have come to its end -/
structure Orderly (ts : List Token) : Prop where
  first : ∀ t ∈ ts.head?, t.kind ∈ [.number, .var, .leftParen]
  neighbours : ts.IsChain Token.Precedes
  balance : ∀ front, front <+: ts → front.count .rightParen ≤ front.count .leftParen

theorem orderly_nil : Orderly [] where
  first t none := by cases none
  neighbours := .nil
  balance front empty := by simp [List.prefix_nil.mp empty]

theorem Orderly.concat {ts : List Token} {t : Token} (h : Orderly ts)
    (first : ts = [] → t.kind ∈ [.number, .var, .leftParen]) (last : ∀ p ∈ ts.getLast?, p.Precedes t)
    (room : (ts ++ [t]).count .rightParen ≤ (ts ++ [t]).count .leftParen) : Orderly (ts ++ [t]) where
  first u mem := by
    cases ts with
    | nil =>
      obtain rfl : t = u := by simpa using mem
      exact first rfl
    | cons p ts => exact h.first u mem
  neighbours := by
    refine List.isChain_append.mpr ⟨h.neighbours, .singleton t, ?_⟩
    intro p mem u single
    obtain rfl : t = u := by simpa using single
    exact last p mem
  balance front part := by
    rcases List.prefix_concat_iff.mp part with rfl | part
    · exact room
    · exact h.balance front part

/-- a token that alone has its kind is counted alike among the spans and among their tokens -/
theorem count_token {t : Token} {kind : Token.Kind} (alone : ∀ u : Token, u.kind = kind ↔ u = t) (ss : List Span) :
    (ss.map Span.token).count t = count kind ss := by
  rw [count, List.count, List.count, List.countP_map, List.countP_map]
  refine List.countP_congr fun s _ => ?_
  rw [Function.comp_apply, Function.comp_apply, beq_iff_eq, beq_iff_eq]
  exact (alone s.token).symm

theorem count_token_leftParen (ss : List Span) : (ss.map Span.token).count .leftParen = count .leftParen ss :=
  count_token (fun _ => Token.kind_leftParen_iff) ss

theorem count_token_rightParen (ss : List Span) : (ss.map Span.token).count .rightParen = count .rightParen ss :=
  count_token (fun _ => Token.kind_rightParen_iff) ss

namespace Draft

/-! ## A run -/

theorem After.orderly_push {d : Draft} {done : List Span} {s : Span} (h : d.After done)
    (orderly : Orderly (done.map Span.token)) (placed : d.objection? s = none) :
    Orderly ((done ++ [s]).map Span.token) := by
  have starts : s.kind.startsOperand = d.due := (objection?_eq_none_iff.mp placed).1
  have balance := (h.push placed).balance
  rw [(h.push placed).opened, (h.push placed).closed, ← count_token_leftParen, ← count_token_rightParen] at balance
  rw [due, h.previous] at starts
  rw [List.map_append] at balance ⊢
  refine orderly.concat ?_ ?_ balance
  · intro none_before
    obtain rfl := List.map_eq_nil_iff.mp none_before
    exact s.kind.mem_starts_iff.mpr starts
  · intro t mem
    rw [List.getLast?_map] at mem
    obtain ⟨p, last, rfl⟩ := Option.map_eq_some_iff.mp mem
    rw [last] at starts
    refine ⟨?_, ?_⟩
    · intro expects
      have ends : p.kind.endsOperand = false := (Token.Kind.mem_expects_iff _).mp expects
      exact s.kind.mem_starts_iff.mpr (by simpa [ends] using starts)
    · intro ended
      have ends : p.kind.endsOperand = true := (Token.Kind.mem_ends_iff _).mp ended
      exact s.kind.mem_continues_iff.mpr (by simpa [ends] using starts)

theorem After.orderly_feed {d : Draft} {done ss : List Span} (h : d.After done)
    (orderly : Orderly (done.map Span.token)) (free : (d.feed ss).refusal = none) :
    Orderly ((done ++ ss).map Span.token) :=
  h.feed_induction (motive := fun _ all => Orderly (all.map Span.token))
    (fun after placed before => after.orderly_push before placed) orderly free

/-! ## The spans accepted -/

/-- these are the spans accepted of a list: the longest part of it, from the first on, in which none is refused -/
structure Taken (d : Draft) (ss done : List Span) : Prop where
  front : done <+: ss
  takes : d.Takes done
  longest : ∀ more, more <+: ss → d.Takes more → more <+: done

theorem Taken.unique {d : Draft} {ss done other : List Span} (h : d.Taken ss done) (k : d.Taken ss other) :
    done = other :=
  (k.longest done h.front h.takes).eq_of_length_le (h.longest other k.front k.takes).length_le

theorem taken_self {d : Draft} {ss : List Span} (takes : d.Takes ss) : d.Taken ss ss where
  front := List.prefix_rfl
  takes := takes
  longest _ part _ := part

/-- spans that are all accepted are those in front of one that is refused -/
theorem taken_append {d : Draft} {done : List Span} {s : Span} {fault : Fault} (takes : d.Takes done)
    (refused : (d.feed done).reply s = .error fault) (ss : List Span) : d.Taken (done ++ s :: ss) done where
  front := List.prefix_append done (s :: ss)
  takes := takes
  longest more part taken := by
    rcases List.prefix_or_prefix_of_prefix part (List.prefix_append done (s :: ss)) with shorter | ⟨rest, rfl⟩
    · exact shorter
    · cases rest with
      | nil => simp
      | cons t rest =>
        -- it would go on with the span that is refused
        obtain ⟨rfl, -⟩ := List.cons_prefix_cons.mp ((List.prefix_append_right_inj done).mp part)
        rw [reply_eq_error_iff, taken done t rest rfl] at refused
        cases refused

/-- the draft behind any spans is the one behind those accepted, but for the fault -/
theorem exists_taken {d : Draft} (free : d.refusal = none) (ss : List Span) :
    ∃ done, d.Taken ss done ∧ (d.feed done).refusal = none ∧
      (d.feed ss = d.feed done ∨
        ∃ s fault, (d.feed done).reply s = .error fault ∧
          d.feed ss = { d.feed done with refusal := some fault }) := by
  rcases feed_cases free ss with accepted | ⟨done, s, later, fault, rfl, accepted, refused, same⟩
  · exact ⟨ss, taken_self ((takes_iff free).mpr accepted), accepted, .inl rfl⟩
  · exact ⟨done, taken_append ((takes_iff free).mpr accepted) refused later, accepted, .inr ⟨s, fault, refused, same⟩⟩

/-! ## At any time -/

/-- what holds of a draft that has accepted these spans, whether it has refused another since or not -/
structure Sound (d : Draft) (done : List Span) : Prop where
  tokens : d.tokens.toList = done.map Span.token
  opened : d.opened = d.tokens.toList.count .leftParen
  closed : d.closed = d.tokens.toList.count .rightParen
  balance : d.closed ≤ d.opened
  orderly : Orderly d.tokens.toList
  previous : d.previous = d.tokens.toList.getLast?.map Token.kind
  lastOffset : ∀ last ∈ done.getLast?, d.lastOffset = last.offset
  stop : ∀ last ∈ done.getLast?, d.stop = last.offset + last.text.utf8ByteSize

theorem After.sound {d : Draft} {done : List Span} (h : d.After done) (orderly : Orderly (done.map Span.token)) :
    d.Sound done where
  tokens := h.tokens
  opened := by rw [h.tokens, count_token_leftParen, h.opened]
  closed := by rw [h.tokens, count_token_rightParen, h.closed]
  balance := h.balance
  orderly := h.tokens ▸ orderly
  previous := by
    rw [h.tokens, h.previous, List.getLast?_map, Option.map_map]
    rfl
  lastOffset := h.lastOffset
  stop := h.stop

theorem Sound.refuse {d : Draft} {done : List Span} (h : d.Sound done) (fault : Fault) :
    Sound { d with refusal := some fault } done :=
  ⟨h.tokens, h.opened, h.closed, h.balance, h.orderly, h.previous, h.lastOffset, h.stop⟩

/-- the depth that is written for a span accepted is the difference of the counts behind it -/
theorem exists_depth {d : Draft} (free : d.refusal = none) (balance : d.closed ≤ d.opened) {s : Span}
    (accepted : d.reply s = .ok ()) :
    ∃ depth, (d.accept s).log = d.log.add (.token s.text s.offset depth) ∧
      (d.accept s).opened = (d.accept s).closed + depth := by
  have placed : d.objection? s = none := (refusal_accept free s).symm.trans (reply_eq_ok_iff.mp accepted)
  have room : (d.push s).closed ≤ (d.push s).opened := closed_push_le balance placed
  rw [accept_of_no_objection free placed]
  exact ⟨(d.push s).opened - (d.push s).closed, rfl, (Nat.add_sub_cancel' room).symm⟩

theorem opened_eq_of_finish {d : Draft} (free : d.refusal = none) (balance : d.closed ≤ d.opened)
    {position missing : ℕ} (h : d.finish = .error (.unclosed position missing)) :
    d.opened = d.closed + missing := by
  unfold finish at h
  rw [free] at h
  cases previous : d.previous with
  | none => simp [previous] at h
  | some last =>
    simp only [previous] at h
    split_ifs at h with open_end uneven
    · simp at h
    · obtain ⟨-, rfl⟩ := Fault.unclosed.inj (Except.error.inj h)
      exact (Nat.add_sub_cancel' balance).symm

/-- **What holds of a draft at any time.** Feed any spans to a fresh draft. It holds the tokens of the spans accepted,
those in front of the first refusal, and its other fields are said by them: the counts are those of the parentheses, the
previous kind is that of the last token, if there is one, and the places are those of the last span. The tokens stand in
a row as those of a formula do, with no more right than left parentheses in front of any place. So both differences of
the counts are true ones: the depth written for the next span accepted, and the number of parentheses missing at the
end. -/
theorem exists_sound (log : Log) (ss : List Span) :
    let d := (start log).feed ss
    ∃ done, (start log).Taken ss done ∧ d.Sound done ∧
      (∀ s, d.reply s = .ok () → ∃ depth, (d.accept s).log = d.log.add (.token s.text s.offset depth) ∧
        (d.accept s).opened = (d.accept s).closed + depth) ∧
      ∀ position missing, d.finish = .error (.unclosed position missing) → d.opened = d.closed + missing := by
  intro d
  obtain ⟨done, taken, free, same⟩ := exists_taken (show (start log).refusal = none from rfl) ss
  have after : ((start log).feed done).After done := (after_start log).feed free
  have sound := after.sound ((after_start log).orderly_feed orderly_nil free)
  refine ⟨done, taken, ?_⟩
  rcases same with same | ⟨s, fault, answer, same⟩
  · rw [show d = (start log).feed done from same]
    exact ⟨sound, fun s => exists_depth free after.balance, fun _ _ => opened_eq_of_finish free after.balance⟩
  · have refused : d.refusal = some fault := by rw [show d = _ from same]
    refine ⟨?_, ?_, ?_⟩
    · rw [show d = _ from same]
      exact sound.refuse fault
    · intro t accepted
      rw [reply_eq_ok_iff, accept_of_refused refused, refused] at accepted
      cases accepted
    · -- no span is refused for parentheses that are missing
      intro position missing ended
      rw [finish_of_refused refused] at ended
      obtain rfl := Except.error.inj ended
      cases after.objection?_eq_some_iff.mp (objection?_of_reply_error free answer)

/-- two parentheses open in front of a name, with texts and offsets that fit nothing -/
theorem exists_sound_open :
    let ss : List Span := [⟨.leftParen, "", 7⟩, ⟨.leftParen, "((", 0⟩, ⟨.var "x", "?", 3⟩]
    let d := (start (.blank .trace)).feed ss
    let right : Span := ⟨.rightParen, ")", 1⟩
    d.reply right = .ok () ∧ d.finish = .error (.unclosed 4 2) ∧
      ∃ done, (start (.blank .trace)).Taken ss done ∧ d.Sound done ∧
        (∃ depth, (d.accept right).log = d.log.add (.token ")" 1 depth) ∧
          (d.accept right).opened = (d.accept right).closed + depth) ∧
        d.opened = d.closed + 2 := by
  intro ss d right
  have accepted : d.reply right = .ok () := rfl
  have ended : d.finish = .error (.unclosed 4 2) := rfl
  obtain ⟨done, taken, sound, depth, missing⟩ := exists_sound (.blank .trace) ss
  exact ⟨accepted, ended, done, taken, sound, depth right accepted, missing 4 2 ended⟩

end Draft

end CellFormula
