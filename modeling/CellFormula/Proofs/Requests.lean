/-
A reader asked in any order gives each item once.

Items of the stream, items of the text, whole lists of spans and structure checks may be asked for one after another in any
order. All of them move one cursor, so what is pulled for one request lies behind what was pulled for those before it:
nothing is lost, repeated or moved. A fault pulled as part of the stream halts it for good, and requests to the stream are
then answered as if nothing were left. Requests for an item of the text neither see the halt nor cause it, and a span
refused by a check does not cause it either.

- `Cursor.Passes.items_eq`: the items passed on the way from one cursor to another.
- `Draft.consume_cases`: how far a stream is read for a check.
- `Reader.exists_answered`: one request, the items pulled for it and the halt behind it.
- `Reader.run_exchanges`: any list of requests.
-/
import CellFormula.Proofs.Feeding

namespace CellFormula

/-! ## From cursor to cursor -/

/-- reading item by item leads from one cursor to the other, and these are the items on the way -/
inductive Cursor.Passes : Cursor → List Item → Cursor → Prop where
  | here (c : Cursor) : Passes c [] c
  | next {c d e : Cursor} {i : Item} {items : List Item} : c.next? = some (i, d) → Passes d items e →
      Passes c (i :: items) e

theorem Cursor.Passes.single {c d : Cursor} {i : Item} (h : c.next? = some (i, d)) : c.Passes [i] d :=
  .next h (.here d)

/-- the items passed are the front of those ahead -/
theorem Cursor.Passes.items_eq {c d : Cursor} {items : List Item} (h : c.Passes items d) :
    c.items = items ++ d.items := by
  induction h with
  | here c => rfl
  | next found _ ih => rw [items_of_some found, ih, List.cons_append]

/-! ## How far a check reads -/

theorem Draft.eq_ok_of_take {d : Draft} {item : Item} (free : d.refusal = none) (h : (d.take item).refusal = none) :
    ∃ s, item = .ok s := by
  cases item with
  | ok s => exact ⟨s, rfl⟩
  | error fault => simp [refusal_take_error free] at h

/-- a stream is read to its end, all spans accepted, or up to the first item that is refused -/
theorem Draft.consume_cases {d : Draft} (free : d.refusal = none) (items : List Item) :
    (∃ spans : List Span, items = spans.map .ok ∧ (d.feed spans).refusal = none ∧
        d.consume items = (d.feed spans, [])) ∨
      ∃ (spans : List Span) (item : Item) (more : List Item) (fault : Fault), items = spans.map .ok ++ item :: more ∧
        (d.feed spans).refusal = none ∧ ((d.feed spans).take item).refusal = some fault ∧
        d.consume items = ((d.feed spans).take item, more) := by
  induction items generalizing d with
  | nil => exact .inl ⟨[], rfl, free, rfl⟩
  | cons item rest ih =>
    cases taken : (d.take item).refusal with
    | some fault =>
      exact .inr ⟨[], item, rest, fault, rfl, free, taken, consume_cons_of_refused (by simp [taken])⟩
    | none =>
      obtain ⟨s, rfl⟩ := eq_ok_of_take free taken
      rw [consume_cons_of_free taken]
      rcases ih taken with ⟨spans, rfl, accepted, eq⟩ | ⟨spans, item, more, fault, rfl, accepted, refused, eq⟩
      · exact .inl ⟨s :: spans, rfl, accepted, eq⟩
      · exact .inr ⟨s :: spans, item, more, fault, rfl, accepted, refused, eq⟩

namespace Reader

/-! ## What the requests pull -/

theorem exists_of_pull {r q : Reader} {i : Item} (h : r.pull = some (i, q)) :
    r.halted = false ∧ r.cursor.next? = some (i, q.cursor) ∧ q.halted = !i.isOk := by
  unfold pull at h
  split at h
  · cases h
  · rename_i free
    obtain ⟨⟨item, cursor⟩, found, same⟩ := Option.map_eq_some_iff.mp h
    obtain ⟨rfl, rfl⟩ := Prod.mk.inj same
    exact ⟨Bool.not_eq_true _ ▸ free, found, rfl⟩

theorem next?_of_pull_eq_none {r : Reader} (free : r.halted = false) (h : r.pull = none) : r.cursor.next? = none := by
  simpa [pull, free] using h

theorem gather_of_halted {r : Reader} (h : r.halted = true) : r.gather = (.ok [], r) := by
  rw [gather]
  split <;> simp_all [pull_of_halted h]

theorem check_of_halted {r : Reader} (h : r.halted = true) (d : Draft) : r.check d = (d, r) := by
  rw [check]
  split <;> simp_all [pull_of_halted h]

/-- what a request takes of the items left, and what it answers, while the stream goes on -/
inductive Serves (left : List Item) : Request → List Item → Reply → Prop where
  /-- the next item, or nothing at the end -/
  | one {request : Request} : request = .pull ∨ request = .skip → Serves left request (left.take 1) (.item left.head?)
  /-- all items, if they are spans -/
  | spans (spans : List Span) : left = spans.map .ok → Serves left .gather left (.spans (.ok spans))
  /-- the spans before the first fault, and the fault -/
  | fault (spans : List Span) {fault : Fault} {more : List Item} : left = spans.map .ok ++ .error fault :: more →
      Serves left .gather (spans.map .ok ++ [.error fault]) (.spans (.error fault))
  /-- all items, if they are spans that are accepted -/
  | accepted {spans : List Span} (log : Log) : left = spans.map .ok →
      ((Draft.start log).feed spans).refusal = none →
      Serves left .check left (.tokens ((Draft.start log).feed spans).finish)
  /-- the spans that are accepted, and the first item that is not -/
  | refused {spans : List Span} {item : Item} {more : List Item} {fault : Fault} (log : Log) :
      left = spans.map .ok ++ item :: more → ((Draft.start log).feed spans).refusal = none →
      (((Draft.start log).feed spans).take item).refusal = some fault →
      Serves left .check (spans.map .ok ++ [item]) (.tokens (.error fault))

theorem exists_gather {r : Reader} (free : r.halted = false) :
    ∃ pulled, r.cursor.Passes pulled r.gather.2.cursor ∧
      Serves r.cursor.items .gather pulled (.spans r.gather.1) ∧
      (r.gather.2.halted = true ↔ ∃ fault, .error fault ∈ pulled) := by
  fun_induction Reader.gather r with
  | case1 r ended =>
    refine ⟨[], .here _, ?_, by simp [free]⟩
    rw [Cursor.items_of_none (next?_of_pull_eq_none free ended)]
    exact .spans [] rfl
  | case2 r fault q pulled =>
    obtain ⟨-, found, halted⟩ := exists_of_pull pulled
    refine ⟨[.error fault], .single found, .fault [] (Cursor.items_of_some found), ?_⟩
    simp [halted, Except.isOk, Except.toBool]
  | case3 r span q pulled spans rest eq ih =>
    obtain ⟨-, found, halted⟩ := exists_of_pull pulled
    obtain ⟨items, passed, served, ended⟩ := ih halted
    rw [eq] at passed served ended
    refine ⟨.ok span :: items, .next found passed, ?_, by simpa using ended⟩
    rw [Cursor.items_of_some found]
    simp only at served
    cases served with
    | spans all all_spans => exact .spans (span :: all) (congrArg (.ok span :: ·) all_spans)
    | fault before split => exact .fault (span :: before) (congrArg (.ok span :: ·) split)

theorem exists_check {r : Reader} {d : Draft} (free : r.halted = false) (accepted : d.refusal = none) :
    ∃ pulled, r.cursor.Passes pulled (r.check d).2.cursor ∧
      d.consume r.cursor.items = ((r.check d).1, (r.check d).2.cursor.items) ∧
      ((r.check d).2.halted = true ↔ ∃ fault, .error fault ∈ pulled) := by
  fun_induction Reader.check r d with
  | case1 r d ended =>
    have items := Cursor.items_of_none (next?_of_pull_eq_none free ended)
    exact ⟨[], .here _, by rw [items]; rfl, by simp [free]⟩
  | case2 r d item q pulled next refused =>
    obtain ⟨-, found, halted⟩ := exists_of_pull pulled
    refine ⟨[item], .single found, ?_, ?_⟩
    · rw [Cursor.items_of_some found, Draft.consume_cons_of_refused (Option.isSome_iff_ne_none.mp refused)]
    · rw [halted]
      cases item <;> simp [Except.isOk, Except.toBool]
  | case3 r d item q pulled next going ih =>
    obtain ⟨-, found, halted⟩ := exists_of_pull pulled
    have taken : (d.take item).refusal = none := by simpa [next] using going
    obtain ⟨s, rfl⟩ := Draft.eq_ok_of_take accepted taken
    obtain ⟨items, passed, consumed, ended⟩ := ih halted taken
    refine ⟨.ok s :: items, .next found passed, ?_, by simpa using ended⟩
    rw [Cursor.items_of_some found, Draft.consume_cons_of_free taken, consumed]

/-! ## One request -/

structure Exchange where
  request : Request
  pulled : List Item
  reply : Reply

/-- a fault was pulled as part of the stream -/
def Exchange.Halts (e : Exchange) : Prop := e.request ≠ .skip ∧ ∃ fault, .error fault ∈ e.pulled

/-- the reply where nothing is left -/
def Request.spent : Request → Reply
  | .pull | .skip => .item none
  | .gather => .spans (.ok [])
  | .check => .tokens (.error .empty)

/-- the exchange is right with these items left: a halted stream gives nothing more, and all else is served -/
structure Exchange.Fits (halted : Prop) (left : List Item) (e : Exchange) : Prop where
  spent : halted → e.request ≠ .skip → e.pulled = [] ∧ e.reply = e.request.spent
  served : ¬ halted ∨ e.request = .skip → Serves left e.request e.pulled e.reply

theorem serves_single {left : List Item} {i : Item} {more : List Item} {request : Request}
    (single : request = .pull ∨ request = .skip) (h : left = i :: more) :
    Serves left request [i] (.item (some i)) := by
  subst h
  exact .one single

theorem serves_nothing {left : List Item} {request : Request} (single : request = .pull ∨ request = .skip)
    (h : left = []) : Serves left request [] (.item none) := by
  subst h
  exact .one single

theorem exists_answered_skip (r : Reader) (log : Log) :
    ∃ pulled, r.cursor.Passes pulled (r.answer log .skip).2.1.cursor ∧
      (r.answer log .skip).2.1.halted = r.halted ∧ Serves r.cursor.items .skip pulled (r.answer log .skip).1 := by
  cases next : r.cursor.next? with
  | none =>
    have answered : r.answer log .skip = (.item none, r, log) := by simp [answer, skip, next]
    rw [answered]
    exact ⟨[], .here _, rfl, serves_nothing (.inr rfl) (Cursor.items_of_none next)⟩
  | some found =>
    obtain ⟨i, d⟩ := found
    have answered : r.answer log .skip = (.item (some i), ⟨d, r.halted⟩, log) := by simp [answer, skip, next]
    rw [answered]
    exact ⟨[i], .single next, rfl, serves_single (.inr rfl) (Cursor.items_of_some next)⟩

theorem exists_answered_of_free {r : Reader} (free : r.halted = false) (log : Log) {request : Request}
    (stream : request ≠ .skip) :
    ∃ pulled, r.cursor.Passes pulled (r.answer log request).2.1.cursor ∧
      ((r.answer log request).2.1.halted = true ↔ ∃ fault, .error fault ∈ pulled) ∧
      Serves r.cursor.items request pulled (r.answer log request).1 := by
  cases request with
  | skip => exact absurd rfl stream
  | pull =>
    cases next : r.pull with
    | none =>
      have answered : r.answer log .pull = (.item none, r, log) := by simp [answer, next]
      rw [answered]
      have items := Cursor.items_of_none (next?_of_pull_eq_none free next)
      exact ⟨[], .here _, by simp [free], serves_nothing (.inl rfl) items⟩
    | some found =>
      obtain ⟨i, q⟩ := found
      have answered : r.answer log .pull = (.item (some i), q, log) := by simp [answer, next]
      rw [answered]
      obtain ⟨-, found, halted⟩ := exists_of_pull next
      refine ⟨[i], .single found, ?_, serves_single (.inl rfl) (Cursor.items_of_some found)⟩
      rw [halted]
      cases i <;> simp [Except.isOk, Except.toBool]
  | gather =>
    obtain ⟨pulled, passed, served, ended⟩ := exists_gather free
    exact ⟨pulled, passed, ended, served⟩
  | check =>
    obtain ⟨pulled, passed, consumed, ended⟩ := exists_check free (show (Draft.start log).refusal = none from rfl)
    refine ⟨pulled, passed, ended, ?_⟩
    have items := passed.items_eq
    rcases Draft.consume_cases (show (Draft.start log).refusal = none from rfl) r.cursor.items with
      ⟨spans, all_spans, accepted, eq⟩ | ⟨spans, item, more, fault, split, accepted, refused, eq⟩
    · obtain ⟨draft_eq, rest⟩ := Prod.mk.inj (eq.symm.trans consumed)
      rw [← rest, List.append_nil] at items
      simp only [answer, ← draft_eq, ← items]
      exact .accepted log all_spans accepted
    · obtain ⟨draft_eq, rest⟩ := Prod.mk.inj (eq.symm.trans consumed)
      have pulled_eq : pulled = spans.map .ok ++ [item] := by
        rw [← rest, split, List.append_cons] at items
        exact (List.append_cancel_right items).symm
      simp only [answer, ← draft_eq, pulled_eq, Draft.finish_of_refused refused]
      exact .refused log split accepted refused

/-- one request: the items pulled for it, how they are answered, and whether the stream has halted behind it -/
theorem exists_answered (r : Reader) (log : Log) (request : Request) :
    ∃ pulled, r.cursor.Passes pulled (r.answer log request).2.1.cursor ∧
      Exchange.Fits (r.halted = true) r.cursor.items ⟨request, pulled, (r.answer log request).1⟩ ∧
      ((r.answer log request).2.1.halted = true ↔
        r.halted = true ∨ Exchange.Halts ⟨request, pulled, (r.answer log request).1⟩) := by
  by_cases stream : request = .skip
  · subst stream
    obtain ⟨pulled, passed, halted, served⟩ := exists_answered_skip r log
    exact ⟨pulled, passed, ⟨fun _ no => absurd rfl no, fun _ => served⟩, by simp [halted, Exchange.Halts]⟩
  · cases halted : r.halted with
    | true =>
      have answered : r.answer log request = (request.spent, r, log) := by
        cases request with
        | pull => simp [answer, pull_of_halted halted, Request.spent]
        | skip => exact absurd rfl stream
        | gather => simp [answer, gather_of_halted halted, Request.spent]
        | check => simp [answer, check_of_halted halted, Request.spent, Draft.finish, Draft.start]
      rw [answered]
      refine ⟨[], .here _, ⟨fun _ _ => ⟨rfl, rfl⟩, ?_⟩, by simp [halted]⟩
      intro going
      simp [stream] at going
    | false =>
      obtain ⟨pulled, passed, ended, served⟩ := exists_answered_of_free halted log stream
      refine ⟨pulled, passed, ⟨by simp, fun _ => served⟩, ?_⟩
      simp [ended, Exchange.Halts, stream]

/-! ## Any requests -/

/-- the exchanges of a reader that is asked again and again, with the items that its cursor passes each time -/
inductive Exchanges : Reader → Log → List Exchange → Prop where
  | done (r : Reader) (log : Log) : Exchanges r log []
  | more {r : Reader} {log : Log} {e : Exchange} {es : List Exchange} : (r.answer log e.request).1 = e.reply →
      r.cursor.Passes e.pulled (r.answer log e.request).2.1.cursor →
      Exchanges (r.answer log e.request).2.1 (r.answer log e.request).2.2 es → Exchanges r log (e :: es)

/-- a run from any reader on: what is pulled is the front of what is left, and each exchange is right for the items and
the halt that those before it have left behind -/
theorem exists_exchanges (r : Reader) (log : Log) (requests : List Request) :
    ∃ es, Exchanges r log es ∧ es.map Exchange.request = requests ∧
      es.map Exchange.reply = (r.run log requests).1 ∧ es.flatMap Exchange.pulled <+: r.cursor.items ∧
      ∀ before e after, es = before ++ e :: after →
        e.Fits (r.halted = true ∨ ∃ b ∈ before, b.Halts)
          (r.cursor.items.drop (before.flatMap Exchange.pulled).length) := by
  induction requests generalizing r log with
  | nil => exact ⟨[], .done r log, rfl, rfl, List.nil_prefix, by simp⟩
  | cons request requests ih =>
    obtain ⟨pulled, passed, fits, halted⟩ := exists_answered r log request
    obtain ⟨es, exchanges, asked, replies, front, later⟩ :=
      ih (r.answer log request).2.1 (r.answer log request).2.2
    have items := passed.items_eq
    refine ⟨⟨request, pulled, (r.answer log request).1⟩ :: es, .more rfl passed exchanges, by simp [asked],
      by simp [replies, run], ?_, ?_⟩
    · rw [items, List.flatMap_cons]
      exact List.prefix_append_right_inj pulled |>.mpr front
    · intro before e after split
      cases before with
      | nil =>
        obtain ⟨rfl, rfl⟩ := List.cons.inj split
        simpa using fits
      | cons first before =>
        obtain ⟨rfl, behind⟩ := List.cons.inj split
        have right := later before e after behind
        rw [halted] at right
        rw [items]
        simpa [or_assoc] using right

/-- **Each item once, and no more after a fault.** Whatever is asked of a reader, in whatever order, the items pulled are
the front of the items of the text. Once a fault has been pulled as part of the stream, requests to the stream pull
nothing and are answered as where nothing is left. Before that, and for an item of the text at any time, a request is
served with the items that follow those already pulled. -/
theorem run_exchanges (text : String) (log : Log) (requests : List Request) :
    let items := (Cursor.start text).items
    ∃ es, Exchanges (start text) log es ∧ es.map Exchange.request = requests ∧
      es.map Exchange.reply = ((start text).run log requests).1 ∧ es.flatMap Exchange.pulled <+: items ∧
      ∀ before e after, es = before ++ e :: after →
        ((∃ b ∈ before, b.Halts) → e.request ≠ .skip → e.pulled = [] ∧ e.reply = e.request.spent) ∧
          ((¬ ∃ b ∈ before, b.Halts) ∨ e.request = .skip →
            Serves (items.drop (before.flatMap Exchange.pulled).length) e.request e.pulled e.reply) := by
  intro items
  obtain ⟨es, exchanges, asked, replies, front, right⟩ := exists_exchanges (start text) log requests
  refine ⟨es, exchanges, asked, replies, front, ?_⟩
  intro before e after split
  have fits := right before e after split
  have fresh : ((start text).halted = true ∨ ∃ b ∈ before, b.Halts) ↔ ∃ b ∈ before, b.Halts := by simp [start]
  rw [fresh] at fits
  exact ⟨fits.spent, fits.served⟩

/-- a fault pulled halts the stream for the check, but not for the item of the text asked for in between -/
theorem run_exchanges_halted :
    ∃ es, Exchanges (start "$a1") (.blank .off) es ∧ es.map Exchange.request = [.pull, .skip, .check] ∧
      es.map Exchange.reply = [.item (some (.error (.unreadable 0 '$'))), .item (some (.ok ⟨.var "A1", "a1", 1⟩)),
        .tokens (.error .empty)] := by
  have items_eq : (Cursor.start "$a1").items = [.error (.unreadable 0 '$'), .ok ⟨.var "A1", "a1", 1⟩] := by
    decide +kernel
  obtain ⟨es, exchanges, asked, -, -, right⟩ := run_exchanges "$a1" (.blank .off) [.pull, .skip, .check]
  rw [items_eq] at right
  refine ⟨es, exchanges, asked, ?_⟩
  obtain ⟨⟨_, pulled₁, reply₁⟩, _, rfl, rfl, asked₁⟩ := List.map_eq_cons_iff.mp asked
  obtain ⟨⟨_, pulled₂, reply₂⟩, _, rfl, rfl, asked₂⟩ := List.map_eq_cons_iff.mp asked₁
  obtain ⟨⟨_, pulled₃, reply₃⟩, _, rfl, rfl, asked₃⟩ := List.map_eq_cons_iff.mp asked₂
  obtain rfl := List.map_eq_nil_iff.mp asked₃
  have first := (right [] _ _ rfl).2 (.inl (by simp))
  cases first with
  | one _ =>
    have second := (right [_] _ _ rfl).2 (.inr rfl)
    cases second with
    | one _ =>
      have halts : Exchange.Halts ⟨.pull, _, .item (some (.error (.unreadable 0 '$')))⟩ :=
        ⟨by simp, .unreadable 0 '$', List.mem_singleton_self _⟩
      have third : reply₃ = .tokens (.error .empty) :=
        ((right [_, _] _ _ rfl).1 ⟨_, List.mem_cons_self, halts⟩ (by simp)).2
      rw [third]
      rfl

end Reader

end CellFormula
