import ReplyRules.Proofs.Rule.Exchange
import ReplyRules.Proofs.Engine.Rollback

/-!
Documents that are given to an engine.  From the document for some rules an engine takes those that are
complete, each as its record tells it.  So an engine that had no rules comes to have those of the engine that
the document is from, if they are complete, and gives the same document again, if all types are read as ones
that are written in the same way.  A type that is called "PNG" is not (`Engine.exportText_ne_of_other_PNG`).

Main result: a document gives the complete rules again, and goes from engine to engine unchanged, unless
a type is written in another way or the store or the backend refuses the rules
(`Engine.document_round_trip`).
-/

namespace ReplyRules

namespace Engine

variable {σ : Type} {e : Engine} {rules : List Rule} {now : Instant}

/-- The document asks an engine without rules for the complete rules. -/
theorem Settled.proposal_importDocument (hsettled : e.Settled) (hrunning : e.running = true)
    (hempty : e.rules = []) (rules : List Rule) (now : Instant) :
    e.proposal now (.importDocument (Rule.exportText rules)) =
      .ok ⟨(Rule.complete rules).map Rule.retold, e.published.book.enabled⟩ := by
  have hread := Rule.ofDocument_exportText_eq_retold rules now
  have hrules : e.current.book.rules = [] := by
    rw [← hsettled.published_eq]
    exact hempty
  have hagain : Rule.complete ((Rule.complete rules).map Rule.retold) =
      (Rule.complete rules).map Rule.retold := by
    rw [Rule.complete_map_retold, Rule.complete_complete]
  simp [proposal, receive, target, hread, hrunning, hrules, hagain, hsettled.published_eq, bind,
    Except.bind]

/-- An engine is asked for the rules that it has and the one that is added. -/
theorem proposal_add {input : RuleInput} {r : Rule} (hrunning : e.running = true)
    (hvalid : input.validate now = .ok r) :
    e.proposal now (.edit (.add input)) = .ok { e.current.book with rules := e.current.book.rules ++ [r] } := by
  simp [proposal, receive, target, Edit.apply, hrunning, hvalid, bind, Except.bind]

/-- The store or the backend has refused the book with this error. -/
def RefusedBy (host : Host σ) (now : Instant) (book : RuleBook) (s : σ) : EngineError → Prop
  | .store err => (host.save book s).1 = .error err
  | .backend err =>
    (host.save book s).1 = .ok () ∧
      (host.install (compile book.rules book.enabled now).ruleSet (host.save book s).2).1 = .error err
  | _ => False

/-- A change of state succeeds, unless the store or the backend refuses it. -/
theorem Settled.transition_spec (hsettled : e.Settled) (host : Host σ) (now : Instant) (book : RuleBook)
    (s : σ) :
    match ((e.transition host now book).run s).1 with
    | (.ok (), e') => e'.published.book = book
    | (.error err, e') => e' = e ∧ RefusedBy host now book s err := by
  rw [run_transition, hsettled.recompile_ruleSet]
  rcases hsave : host.save book s with ⟨err | ⟨⟩, s₁⟩
  · exact ⟨rfl, congrArg Prod.fst hsave⟩
  rcases hinstall : host.install (compile book.rules book.enabled now).ruleSet s₁
    with ⟨err | ⟨⟩, s₂⟩
  · simp only [hinstall]
    refine ⟨trivial, congrArg Prod.fst hsave, ?_⟩
    rw [hsave]
    exact congrArg Prod.fst hinstall
  · simp only [hinstall]
    rfl

/-- A document with complete rules only, given to an engine without rules. -/
theorem Settled.perform_importDocument (hsettled : e.Settled) (hrunning : e.running = true)
    (hempty : e.rules = []) (h : ∀ r ∈ rules, r.isComplete) (host : Host σ) (now : Instant) (s : σ) :
    match ((e.perform host now (.importDocument (Rule.exportText rules))).run s).1 with
    | (.ok (), e') => e'.published.book = ⟨rules.map Rule.retold, e.published.book.enabled⟩
    | (.error err, e') =>
      e' = e ∧ RefusedBy host now ⟨rules.map Rule.retold, e.published.book.enabled⟩ s err := by
  have hcomplete : Rule.complete rules = rules := List.filter_eq_self.mpr h
  have hproposal := hsettled.proposal_importDocument hrunning hempty rules now
  rw [hcomplete] at hproposal
  rw [perform_eq, hproposal]
  exact hsettled.transition_spec host now ⟨rules.map Rule.retold, e.published.book.enabled⟩ s

/-- **A document gives the rules again.**  From the document for some rules, all of them with types that
have names, exactly the complete ones are taken, in their order and with their times to the millisecond;
what has been taken is written as the same text as the complete rules are.

So where the rules of an engine are complete, its document gives an engine without rules the same rules as
their records tell them; the command only fails where the store or the backend refuses them.  The engine then
gives the same document, if and only if each type is written as the one that it is read as; so it does if all
types have names. -/
theorem document_round_trip (rules : List Rule) (e : Engine) (host : Host σ) (settings : Settings)
    (e' : Engine) (s : σ) (now : Instant) :
    ((∀ r ∈ rules, r.responseType.IsNamed) →
      Rule.ofDocument now (Rule.exportText rules) =
          .ok ((rules.filter Rule.isComplete).map Rule.floored) ∧
        Rule.exportText ((rules.filter Rule.isComplete).map Rule.floored) =
          Rule.exportText (Rule.complete rules)) ∧
    ((∀ r ∈ e.rules, r.isComplete) →
      Reachable host settings e' s → e'.running = true → e'.rules = [] →
      match ((e'.perform host now (.importDocument e.exportText)).run s).1 with
      | (.ok (), e'') => e''.rules = e.rules.map Rule.retold ∧
          (e''.exportText = e.exportText ↔
            ∀ r ∈ e.rules, (ResponseType.ofName r.responseType.name).name = r.responseType.name) ∧
          ((∀ r ∈ e.rules, r.responseType.IsNamed) →
            e''.rules = e.rules.map Rule.floored ∧ e''.exportText = e.exportText)
      | (.error err, e'') =>
        e'' = e' ∧ RefusedBy host now ⟨e.rules.map Rule.retold, e'.published.book.enabled⟩ s err) := by
  constructor
  · intro h
    exact ⟨Rule.ofDocument_exportText h now, Rule.exportText_map_floored _⟩
  · intro h hreachable hrunning hempty
    have hperform := hreachable.settled.perform_importDocument hrunning hempty h host now s
    rw [exportText]
    rcases hresult : ((e'.perform host now (.importDocument (Rule.exportText e.rules))).run s).1
      with ⟨err | ⟨⟩, e''⟩
    · rw [hresult] at hperform
      exact hperform
    · rw [hresult] at hperform
      have hrules : e''.rules = e.rules.map Rule.retold := congrArg RuleBook.rules hperform
      have htext : e''.exportText = Rule.exportText e.rules ↔
          ∀ r ∈ e.rules, (ResponseType.ofName r.responseType.name).name = r.responseType.name := by
        rw [exportText, hrules, Rule.exportText_map_retold_iff]
      refine ⟨hrules, htext, fun hnamed => ⟨?_, htext.mpr fun r hr => ?_⟩⟩
      · rw [hrules, Rule.map_retold_eq_floored hnamed]
      · rw [(hnamed r hr).ofName_name]

/-- A store that is empty and a backend, neither of which refuses anything. -/
def willing : Host Unit where
  load _ := pure (.ok .initial)
  save _ := pure (.ok ())
  install _ := pure (.ok ())

theorem reachable_willing :
    Reachable willing .initial (ofCompilation .initial .initial (compile [] true .epoch)) () :=
  have hstarted : (start willing .initial .epoch).run () =
    (.started (ofCompilation .initial .initial (compile [] true .epoch)), ()) := rfl
  .start hstarted

theorem not_refusedBy_willing {book : RuleBook} {err : EngineError} :
    ¬ RefusedBy willing now book () err := by
  intro h
  cases err with
  | store err => cases h
  | backend err => cases h.2
  | edit err => exact h.elim
  | notImported err => exact h.elim
  | closed => exact h.elim

theorem Settled.perform_willing (hsettled : e.Settled) {command : Command} {book : RuleBook}
    (hproposal : e.proposal now command = .ok book) :
    ∃ e', (e.perform willing now command).run () = ((.ok (), e'), ()) ∧ e'.published.book = book := by
  have hspec := hsettled.transition_spec willing now book ()
  rw [perform_eq, hproposal]
  rcases hresult : (e.transition willing now book).run () with ⟨⟨err | ⟨⟩, e'⟩, ⟨⟩⟩
  · rw [hresult] at hspec
    exact absurd hspec.2 not_refusedBy_willing
  · rw [hresult] at hspec
    exact ⟨e', rfl, hspec⟩

/-- One rule of two is complete, and goes from engine to engine. -/
theorem document_round_trip_willing :
    let r : Rule := { (default : Rule) with urlPattern := "*\u00e9*", responseContent := "\t\"" }
    let e := ofCompilation .initial ⟨[r], true⟩ (compile [r] true .epoch)
    let e' := ofCompilation .initial .initial (compile [] true .epoch)
    Rule.ofDocument .epoch (Rule.exportText [default, r]) = .ok [r] ∧
      ∃ e'', ((e'.perform willing .epoch (.importDocument e.exportText)).run ()).1 = (.ok (), e'') ∧
        e''.exportText = e.exportText := by
  intro r e e'
  have hnamed : ResponseType.html.IsNamed := ⟨"html", by decide⟩
  constructor
  · have htaken : ([default, r].filter Rule.isComplete).map Rule.floored = [r] := by decide +kernel
    rw [← htaken]
    refine ((document_round_trip [default, r] e willing .initial e' () .epoch).1 ?_).1
    simp only [List.forall_mem_cons, List.not_mem_nil, false_implies, implies_true, and_true]
    exact ⟨hnamed, hnamed⟩
  · have hcomplete : ∀ r' ∈ e.rules, r'.isComplete := List.forall_mem_singleton.mpr (by decide)
    have htypes : ∀ r' ∈ e.rules, r'.responseType.IsNamed := List.forall_mem_singleton.mpr hnamed
    have hreachable : Reachable willing .initial e' () := reachable_willing
    have hrunning : e'.running = true := rfl
    have hempty : e'.rules = [] := rfl
    -- nothing else is to be known of the engines, and nothing of them is to be computed
    clear_value e e'
    have himport := (document_round_trip [default, r] e willing .initial e' () .epoch).2 hcomplete
      hreachable hrunning hempty
    rcases hresult : ((e'.perform willing .epoch (.importDocument e.exportText)).run ()).1
      with ⟨err | ⟨⟩, e''⟩
    · rw [hresult] at himport
      exact absurd himport.2 not_refusedBy_willing
    · rw [hresult] at himport
      exact ⟨e'', rfl, (himport.2.2 htypes).2⟩

/-- A rule with a type that is called "PNG" is added to an engine.  In its document the type is written so,
but is read as that of images, which is written "png". -/
theorem exportText_ne_of_other_PNG :
    let input : RuleInput := { RuleInput.plain "a" "x" with responseType := .other "PNG" }
    let e' := ofCompilation .initial .initial (compile [] true .epoch)
    let e := ((e'.react willing .epoch (.command (.edit (.add input)))).run ()).1
    Reachable willing .initial e () ∧ e.rules ≠ [] ∧ (∀ r ∈ e.rules, r.isComplete) ∧
      Reachable willing .initial e' () ∧ e'.rules = [] ∧
      ∃ e'', ((e'.perform willing .epoch (.importDocument e.exportText)).run ()).1 = (.ok (), e'') ∧
        e''.exportText ≠ e.exportText := by
  have hvalid : RuleInput.validate { RuleInput.plain "a" "x" with responseType := .other "PNG" } .epoch =
    .ok (RuleInput.toRule { RuleInput.plain "a" "x" with responseType := .other "PNG" } "a" .epoch) := rfl
  intro input e' e
  have hreachable' : Reachable willing .initial e' () := reachable_willing
  have hrunning : e'.running = true := rfl
  have hbook' : e'.current.book = .initial := rfl
  have hempty : e'.rules = [] := rfl
  clear_value e'
  have hproposal := proposal_add hrunning hvalid
  rw [hbook'] at hproposal
  obtain ⟨added, hadded, hbook⟩ := hreachable'.settled.perform_willing hproposal
  have hreachable : Reachable willing .initial e () := hreachable'.react .epoch _
  have he : e = added := congrArg Prod.fst (react_command hadded)
  clear_value e
  subst he
  have hrules : e.rules = [input.toRule "a" .epoch] := congrArg RuleBook.rules hbook
  have hcomplete : ∀ r ∈ e.rules, r.isComplete := by
    rw [hrules]
    exact List.forall_mem_singleton.mpr (by decide)
  refine ⟨hreachable, by simp [hrules], hcomplete, hreachable', hempty, ?_⟩
  have himport := hreachable'.settled.proposal_importDocument hrunning hempty e.rules .epoch
  rw [show Rule.complete e.rules = e.rules from List.filter_eq_self.mpr hcomplete] at himport
  obtain ⟨e'', hperform, hbook''⟩ := hreachable'.settled.perform_willing himport
  refine ⟨e'', congrArg Prod.fst hperform, fun hsame => ?_⟩
  -- the same text would have the type written as it is read
  have hretold : e''.rules = e.rules.map Rule.retold := congrArg RuleBook.rules hbook''
  rw [exportText, hretold, exportText, Rule.exportText_map_retold_iff, hrules] at hsame
  exact absurd (hsame _ List.mem_cons_self) (by decide)

end Engine

end ReplyRules
