import ImportBoundary.Proofs.Edge.Cell

/-!
# The messages of an edge

Every layer rule that applies to an edge and does not allow it has a message for it, and
`layerMessages` gives each of these messages once, in the order of the first rule that has it
(`Edge.mem_messages`, `Edge.pairwise_messages`). How the messages change with the rules follows from
that: rules that are added at the end add messages at the end, a rule that stands there already adds
nothing, another order of the rules is another order of the messages, and a rule that allows more has
no message that it did not have before (`Edge.exists_messages_of_layers`).
-/

namespace ImportBoundary

/-! ## Dropping repeats

`dropRepeats` keeps the first one of equal texts. That the texts are where they stand first is said by
`pairwise_dropRepeats`, in terms of what gives the texts, since the rules count and not the messages.
-/

section

variable {texts more : List String} {s : String}

theorem mem_dropRepeats : s ∈ dropRepeats texts ↔ s ∈ texts := by
  induction texts with
  | nil => rfl
  | cons t rest ih =>
      by_cases eq : s = t
      · simp [dropRepeats, eq]
      · simp [dropRepeats, eq, ih]

/-- What comes behind a list adds the texts that are not in it. -/
theorem dropRepeats_append :
    dropRepeats (texts ++ more) = dropRepeats texts ++ (dropRepeats more).filter (· ∉ texts) := by
  induction texts with
  | nil => exact (List.filter_eq_self.mpr fun t _ => decide_eq_true List.not_mem_nil).symm
  | cons t rest ih =>
      simp only [List.cons_append, dropRepeats, ih, List.filter_append, List.filter_filter,
        List.mem_cons, not_or, Bool.decide_and]

/-- A text that is there already changes nothing. -/
theorem dropRepeats_append_cons_of_mem (mem : s ∈ texts) :
    dropRepeats (texts ++ s :: more) = dropRepeats (texts ++ more) := by
  have absorbed : ∀ t, (decide (t ∉ texts) && decide (t ≠ s)) = decide (t ∉ texts) := by
    intro t
    by_cases known : t ∈ texts
    · simp [known]
    · have other : t ≠ s := fun eq => known (eq ▸ mem)
      simp [known, other]
  rw [dropRepeats_append, dropRepeats_append, dropRepeats, List.filter_cons_of_neg (by simpa),
    List.filter_filter]
  simp only [absorbed]

/-- Of the texts that some things give, each one stands where the first thing gives it. -/
theorem pairwise_dropRepeats {α : Type} (give : α → Option String) (xs : List α) :
    (dropRepeats (xs.filterMap give)).Pairwise fun s t =>
      xs.findIdx (fun x => give x = some s) < xs.findIdx fun x => give x = some t := by
  induction xs with
  | nil => exact List.Pairwise.nil
  | cons x rest ih =>
      cases given : give x with
      | none =>
          rw [List.filterMap_cons_none given]
          refine ih.imp fun earlier => ?_
          simpa [List.findIdx_cons, given] using earlier
      | some first =>
          rw [List.filterMap_cons_some given, dropRepeats, List.pairwise_cons]
          -- The first thing gives `first`; all other texts come from the things behind it.
          have other {t : String} (mem : t ∈ (dropRepeats (rest.filterMap give)).filter (· ≠ first)) :
              first ≠ t := by
            rintro rfl
            simp at mem
          constructor
          · intro t mem
            simp [List.findIdx_cons, given, other mem]
          · refine (ih.filter _).imp_of_mem fun mem mem' earlier => ?_
            simpa [List.findIdx_cons, given, other mem, other mem'] using earlier

end

/-! ## Rules that reject an edge

A rule that has a message for an edge and a rule that allows more than another one are defined by the
fields of the rules. A relaxed rule keeps its message and its files, and every message that it gives
was given before.
-/

namespace LayerRule

/-- The rule rejects the edge with a message: it applies to the edge, does not allow it, and renders
to the message. -/
def Says (rule : LayerRule) (e : Edge) (message : String) : Prop :=
  rule.applies e ∧ ¬ rule.allows e e.destination ∧ rule.render e = message

instance (rule : LayerRule) (e : Edge) (message : String) : Decidable (rule.Says e message) :=
  inferInstanceAs (Decidable (_ ∧ _))

/-- The place of the first rule that rejects the edge with a message. -/
def firstSaying (rules : List LayerRule) (e : Edge) (message : String) : Nat :=
  rules.findIdx fun rule => rule.Says e message

/-- A rule for the same files and with the same message allows what another one allows, and maybe
more. -/
structure RelaxedTo (rule rule' : LayerRule) : Prop where
  source : rule.source = rule'.source
  message : rule.message = rule'.message
  target : rule.target ⊆ rule'.target
  except : rule'.except ⊆ rule.except
  allowChildren : rule.allowChildren → rule'.allowChildren

namespace RelaxedTo

variable {rule rule' : LayerRule} {e : Edge} {d : Destination}

theorem allows (h : rule.RelaxedTo rule') (allowed : rule.allows e d) : rule'.allows e d := by
  simp only [LayerRule.allows, Bool.or_eq_true, Bool.and_eq_true, Bool.not_eq_true',
    Pattern.anyAccepts, List.any_eq_true, List.any_eq_false] at allowed ⊢
  refine allowed.imp ?_ ?_
  · rintro ⟨children, near⟩
    rw [ownLayer, ← h.source]
    exact ⟨h.allowChildren children, near⟩
  · rintro ⟨⟨p, mem, accepts⟩, unexcepted⟩
    exact ⟨⟨p, h.target mem, accepts⟩, fun q mem => unexcepted q (h.except mem)⟩

/-- What the relaxed rule says, the rule said before. -/
theorem said (h : rule.RelaxedTo rule') {message : String} (objects : rule'.Says e message) :
    rule.Says e message := by
  obtain ⟨applies, refused, render⟩ := objects
  refine ⟨?_, fun allowed => refused (h.allows allowed), ?_⟩
  · rw [LayerRule.applies, h.source]
    exact applies
  · rw [LayerRule.render, h.message]
    exact render

end RelaxedTo

end LayerRule

/-! ## The messages

For a rule the destination of an edge is a value, and how often the edge was asked for it before makes
no difference (`Edge.yields_messages`). What the messages are is therefore said of a function,
`Edge.messages`, and every law of it is one of `filterMap` and `dropRepeats`.
-/

namespace Edge

/-- The message of a rule, if the rule rejects the edge. -/
def objection? (e : Edge) (rule : LayerRule) : Option String :=
  if rule.applies e && !rule.allows e e.destination then some (rule.render e) else none

/-- The messages of the rules that reject the edge, without repeats. -/
def messages (e : Edge) (rules : List LayerRule) : List String :=
  dropRepeats (rules.filterMap e.objection?)

variable {e : Edge} {rules xs ys : List LayerRule} {rule rule' : LayerRule} {message : String}

theorem yields_messages (e : Edge) (rules : List LayerRule) :
    e.Yields (layerMessages rules e) (e.messages rules) :=
  e.yields_layerMessages rules

theorem objection?_eq_some_iff : e.objection? rule = some message ↔ rule.Says e message := by
  simp [objection?, LayerRule.Says, and_assoc]

theorem mem_messages : message ∈ e.messages rules ↔ ∃ rule ∈ rules, rule.Says e message := by
  rw [messages, mem_dropRepeats, List.mem_filterMap]
  simp only [objection?_eq_some_iff]

/-- The messages stand in the order of the first rule that has them. -/
theorem pairwise_messages (e : Edge) (rules : List LayerRule) :
    (e.messages rules).Pairwise fun message message' =>
      LayerRule.firstSaying rules e message < LayerRule.firstSaying rules e message' := by
  have ordered := pairwise_dropRepeats e.objection? rules
  simp only [objection?_eq_some_iff] at ordered
  exact ordered

theorem nodup_messages (e : Edge) (rules : List LayerRule) : (e.messages rules).Nodup := by
  refine (e.pairwise_messages rules).imp ?_
  rintro message _ earlier rfl
  exact Nat.lt_irrefl _ earlier

theorem messages_prefix_append (e : Edge) (xs ys : List LayerRule) :
    e.messages xs <+: e.messages (xs ++ ys) := by
  rw [messages, messages, List.filterMap_append, dropRepeats_append]
  exact List.prefix_append _ _

/-- A rule that is there already changes nothing. -/
theorem messages_append_cons_of_mem (mem : rule ∈ xs) :
    e.messages (xs ++ rule :: ys) = e.messages (xs ++ ys) := by
  rw [messages, messages, List.filterMap_append, List.filterMap_append]
  cases said : e.objection? rule with
  | none => rw [List.filterMap_cons_none said]
  | some message =>
      rw [List.filterMap_cons_some said]
      exact dropRepeats_append_cons_of_mem (List.mem_filterMap.mpr ⟨rule, mem, said⟩)

theorem perm_messages (perm : xs.Perm ys) : (e.messages xs).Perm (e.messages ys) := by
  rw [List.perm_ext_iff_of_nodup (e.nodup_messages xs) (e.nodup_messages ys)]
  intro message
  simp only [mem_messages, perm.mem_iff]

/-- A rule that allows more has no new message. -/
theorem messages_subset_of_relaxed (relaxed : rule.RelaxedTo rule') :
    e.messages (xs ++ rule' :: ys) ⊆ e.messages (xs ++ rule :: ys) := by
  intro message mem
  rw [mem_messages] at mem ⊢
  simp only [List.mem_append, List.mem_cons] at mem ⊢
  obtain ⟨speaker, found | rfl | found, said⟩ := mem
  · exact ⟨speaker, .inl found, said⟩
  · exact ⟨rule, .inr (.inl rfl), relaxed.said said⟩
  · exact ⟨speaker, .inr (.inr found), said⟩

/-- The messages of the layers for an edge: whether its destination has been asked for before or not,
every message of a rule that applies and does not allow the edge is there, just once, and they come
in the order of the first rule that has them. More rules at the end mean more messages at the end;
repeating a rule changes nothing; reordering the rules reorders the messages; and replacing a rule by
one that allows more adds no message. -/
theorem exists_messages_of_layers (e : Edge) :
    ∃ messages : List LayerRule → List String,
      (∀ rules, e.Yields (layerMessages rules e) (messages rules)) ∧
      (∀ rules, (messages rules).Nodup ∧
        (∀ message, message ∈ messages rules ↔ ∃ rule ∈ rules, rule.Says e message) ∧
        (messages rules).Pairwise fun message message' =>
          LayerRule.firstSaying rules e message < LayerRule.firstSaying rules e message') ∧
      (∀ xs ys, messages xs <+: messages (xs ++ ys)) ∧
      (∀ xs ys rule, rule ∈ xs → messages (xs ++ rule :: ys) = messages (xs ++ ys)) ∧
      (∀ xs ys, xs.Perm ys → (messages xs).Perm (messages ys)) ∧
      (∀ xs ys rule rule', rule.RelaxedTo rule' →
        messages (xs ++ rule' :: ys) ⊆ messages (xs ++ rule :: ys)) := by
  refine ⟨e.messages, e.yields_messages, fun rules => ?_, e.messages_prefix_append, ?_, ?_, ?_⟩
  · exact ⟨e.nodup_messages rules, fun message => mem_messages, e.pairwise_messages rules⟩
  · exact fun xs ys rule mem => messages_append_cons_of_mem mem
  · exact fun xs ys perm => perm_messages perm
  · exact fun xs ys rule rule' relaxed => messages_subset_of_relaxed relaxed

end Edge

end ImportBoundary
