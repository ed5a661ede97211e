import WorkloadNet.Nft.Document
import WorkloadNet.Proofs.Firewall.Identity
import WorkloadNet.Proofs.Nft.Recording

/-!
# Rules found by their fingerprints

A rule has two forms outside of the program: its fingerprint, by which it is found again, and its
statements, which say what it does. Both tell the same about it. So where rules were added with their
own fingerprints, whatever else is added and deleted around them, what is found by the fingerprint of a
rule has the statements of that rule.
-/

namespace WorkloadNet.Nft

open WorkloadNet.Action Firewall

/-! ## Statements -/

/-- A criterion can be told from its statement. -/
theorem statementOfMatch_injective {m m' : Match} (h : statementOfMatch m = statementOfMatch m') :
    m = m' := by
  cases m with
  | inputInterface name =>
    cases m' with
    | inputInterface name' => exact congrArg _ (by simpa [statementOfMatch] using h)
    | _ => simp [statementOfMatch] at h
  | outputInterface name =>
    cases m' with
    | outputInterface name' => exact congrArg _ (by simpa [statementOfMatch] using h)
    | _ => simp [statementOfMatch] at h
  | connState states =>
    cases m' with
    | connState states' =>
      have htexts : states.map ConnState.text = states'.map ConnState.text := by
        simpa [statementOfMatch] using h
      exact congrArg _ (List.map_inj_right (fun _ _ => ConnState.text_injective) |>.1 htexts)
    | _ => simp [statementOfMatch] at h
  | transport proto =>
    cases m' with
    | transport proto' =>
      have htext : proto.text = proto'.text := by simpa [statementOfMatch] using h
      exact congrArg _ (Transport.text_injective htext)
    | _ => simp [statementOfMatch] at h
  | destPort port =>
    cases m' with
    | destPort port' =>
      have hnumber : port.toNat = port'.toNat := by simpa [statementOfMatch] using h
      exact congrArg _ (UInt16.toNat_inj.1 hnumber)
    | _ => simp [statementOfMatch] at h

/-- So can a verdict. -/
theorem statementOfVerdict_injective {v v' : Verdict}
    (h : statementOfVerdict v = statementOfVerdict v') : v = v' := by
  cases v <;> cases v' <;> simp_all [statementOfVerdict]

/-- Rules have the same statements exactly if they do the same. -/
theorem statements_inj {a b : Rule} : statements a = statements b ↔ a.Alike b := by
  constructor
  · intro h
    obtain ⟨hcriteria, hverdict⟩ := List.append_inj' h rfl
    exact ⟨List.map_inj_right (fun _ _ => statementOfMatch_injective) |>.1 hcriteria,
      statementOfVerdict_injective (List.singleton_inj.1 hverdict)⟩
  · rintro ⟨hcriteria, hverdict⟩
    rw [statements, statements, hcriteria, hverdict]

/-! ## Objects of a document -/

/-- The statements of an object, if it is a rule. -/
def exprOf? (object : Json) : Option Json := do
  let (_, record) ← object.single?
  field? Form.ruleFields "expr" record

/-- The statements of a rule in JSON form. -/
def expr (rule : Rule) : Json := .array ((statements rule).map Statement.toJson)

/-- An object whose comment is the fingerprint of a rule has the statements of a rule with that
fingerprint. -/
def Genuine (object : Json) : Prop :=
  ∀ family table chain handle (rule : Rule), rule.Unspaced →
    memberOf? object = some (.rule family table chain handle (some rule.fingerprint)) →
    ∃ written : Rule, written.Unspaced ∧ written.fingerprint = rule.fingerprint ∧
      exprOf? object = some (expr written)

section Objects

variable {object : Json} {family : NftFamily} {table chain : String} {handle : Option Nat}
variable {comment : Option String}

theorem tableOf?_ne_rule (record : Json) :
    tableOf? record ≠ some (.rule family table chain handle comment) := by
  intro h
  simp [tableOf?, Option.bind_eq_some_iff] at h

theorem chainOf?_ne_rule (record : Json) :
    chainOf? record ≠ some (.rule family table chain handle comment) := by
  intro h
  simp [chainOf?, Option.bind_eq_some_iff] at h

theorem comment_of_ruleOf? {record : Json}
    (h : ruleOf? record = some (.rule family table chain handle comment)) :
    textField? Form.ruleFields "comment" record = comment := by
  obtain ⟨_, -, h⟩ := Option.bind_eq_some_iff.1 h
  obtain ⟨_, -, h⟩ := Option.bind_eq_some_iff.1 h
  obtain ⟨_, -, h⟩ := Option.bind_eq_some_iff.1 h
  injection Option.some.inj h

/-- What is listed as a rule is an object of that kind, and its comment is listed with it. -/
theorem record_of_memberOf?
    (h : memberOf? object = some (.rule family table chain handle comment)) :
    ∃ record, object.single? = some ("rule", record) ∧
      textField? Form.ruleFields "comment" record = comment := by
  unfold memberOf? at h
  split at h
  · cases h
  obtain ⟨⟨kind, record⟩, hsingle, h⟩ := Option.bind_eq_some_iff.1 h
  split at h
  · exact absurd h (tableOf?_ne_rule _)
  · exact absurd h (chainOf?_ne_rule _)
  case h_3 hrule =>
    cases hrule
    exact ⟨record, hsingle, comment_of_ruleOf? h⟩
  · cases h

theorem genuine_of_single? {kind : String} {record : Json}
    (hsingle : object.single? = some (kind, record)) (hkind : kind ≠ "rule") : Genuine object := by
  intro family table chain handle rule _ hmember
  obtain ⟨_, hrule, -⟩ := record_of_memberOf? hmember
  rw [hsingle] at hrule
  exact absurd (congrArg Prod.fst (Option.some.inj hrule)) hkind

end Objects

/-! ## Looking up -/

/-- Among these objects is one under this handle, in the chain of a rule in this table, that has the
fingerprint and the statements of the rule. -/
def HasRule (objects : List Json) (spec : TableSpec) (handle : Nat) (rule : Rule) : Prop :=
  ∃ object ∈ objects,
    memberOf? object = some (.ofRule spec rule.chain handle (some rule.fingerprint)) ∧
      exprOf? object = some (expr rule)

theorem mem_of_mapM {objects : List Json} {listed : List Listed} {member : Listed}
    (h : objects.mapM memberOf? = some listed) (hmember : member ∈ listed) :
    ∃ object ∈ objects, memberOf? object = some member := by
  induction objects generalizing listed with
  | nil =>
    cases h
    cases hmember
  | cons object rest ih =>
    rw [List.mapM_cons] at h
    obtain ⟨first, hfirst, h⟩ := Option.bind_eq_some_iff.1 h
    obtain ⟨others, hothers, h⟩ := Option.bind_eq_some_iff.1 h
    cases h
    rcases List.mem_cons.1 hmember with rfl | hmember
    · exact ⟨object, List.mem_cons_self, hfirst⟩
    · obtain ⟨other, hother, hlisted⟩ := ih hothers hmember
      exact ⟨other, List.mem_cons_of_mem _ hother, hlisted⟩

theorem mapM_of_listing? {objects : List Json} {listed : List Listed}
    (h : (Document.ofObjects objects).bind listing? = some listed) :
    objects.mapM memberOf? = some listed := by
  have hrecord : Json.record? ["nftables"] (.ofMembers [("nftables", .array objects)]) =
      some [some (.array objects)] := rfl
  rw [Document.ofObjects, Option.bind_some] at h
  unfold listing? at h
  rw [hrecord] at h
  simp only [Option.bind_eq_bind, Option.bind_some] at h
  split at h
  · cases h
  · split at h
    · cases h
    · exact h

theorem mapM_of_printed {objects : List Json} {listed : List Listed}
    (h : Document.printed (Document.ofObjects objects) = .ok listed) :
    objects.mapM memberOf? = some listed := by
  unfold Document.printed at h
  split at h
  · rename_i hlisting
    cases h
    exact mapM_of_listing? hlisting
  · cases h

section Tools

variable {τ : Type} {tool : Tool τ} {t : τ}

theorem list_of_ruleset {listed : List Listed} {t' : τ}
    (hon : tool.ruleset.on t = (.ok listed, t')) : tool.list.run t = (.ok listed, t') := by
  unfold Tool.ruleset Tool.call at hon
  rw [on_of] at hon
  split at hon
  · rename_i hlist
    cases hon
    exact hlist
  · cases hon

/-- What is found by the fingerprint of a rule in a genuine listing has the statements of that rule. -/
theorem ends_findInstalled_genuine {objects : List Json} {spec : TableSpec} {rule : Rule}
    (hprints : ∀ listed t', tool.list.run t = (.ok listed, t') →
      Document.printed (Document.ofObjects objects) = .ok listed)
    (hgenuine : ∀ object ∈ objects, Genuine object) (hrule : rule.Unspaced) :
    Ends (tool.backend.findInstalled spec rule) t
      (fun found _ => ∀ handle, found = some handle → HasRule objects spec handle rule)
      fun _ _ => True := by
  have hruleset : Ends tool.ruleset t (fun listed _ => objects.mapM memberOf? = some listed)
      fun _ _ => True := by
    rw [ends_iff]
    exact ⟨fun listed t' hon => mapM_of_printed (hprints listed t' (list_of_ruleset hon)),
      fun _ _ _ => trivial⟩
  refine Ends.bind (Ends.bind hruleset fun listed _ h => ends_pure (Q := fun installed _ =>
    ∃ listed, objects.mapM memberOf? = some listed ∧
      installed = listed.filterMap (Listed.ruleOf? spec rule.chain)) ⟨listed, h, rfl⟩) ?_
  rintro _ _ ⟨listed, hlisted, rfl⟩
  refine ends_pure fun handle hfound => ?_
  obtain ⟨found, hfind, rfl⟩ := Option.map_eq_some_iff.1 hfound
  obtain ⟨early, late, rfl, -⟩ := firstMatch_of_find? hfind
  obtain ⟨object, hobject, hmember⟩ := mem_of_mapM hlisted
    (List.mem_append_right _ List.mem_cons_self)
  obtain ⟨written, hwritten, hsame, hexpr⟩ := hgenuine object hobject _ _ _ _ rule hrule hmember
  -- The object has the statements of some rule with this fingerprint, and so those of this one.
  have hstatements := statements_inj.2 ((fingerprint_inj hwritten hrule).1 hsame)
  refine ⟨object, hobject, hmember, ?_⟩
  rw [hexpr, expr, expr, hstatements]

end Tools

/-! ## Commands -/

/-- A command that adds no rule with a blank in an interface name. -/
def Command.Unspaced : Command → Prop
  | .addRule _ rule => rule.Unspaced
  | _ => True

namespace Document

/-- The record of a rule, as it is added under a handle. -/
def ruleRecord (spec : TableSpec) (rule : Rule) (handle : Nat) : Json :=
  .ofMembers [("family", .text spec.family.text), ("table", .text spec.name),
    ("chain", .text rule.chain), ("expr", expr rule), ("comment", .text rule.fingerprint),
    ("handle", .nat handle)]

theorem changed_addRule (spec : TableSpec) (rule : Rule) (objects : List Json) :
    changed (.addRule spec rule) objects =
      objects ++ [.ofMembers [("rule", ruleRecord spec rule (nextHandle objects))]] := by
  rfl

theorem comment_ruleRecord (spec : TableSpec) (rule : Rule) (handle : Nat) :
    textField? Form.ruleFields "comment" (ruleRecord spec rule handle) = some rule.fingerprint := by
  rfl

theorem expr_ruleRecord (spec : TableSpec) (rule : Rule) (handle : Nat) :
    field? Form.ruleFields "expr" (ruleRecord spec rule handle) = some (expr rule) := by
  rfl

/-- A rule that is added without a blank in an interface name is genuine. -/
theorem genuine_added {spec : TableSpec} {added : Rule} {handle : Nat} (hadded : added.Unspaced) :
    Genuine (.ofMembers [("rule", ruleRecord spec added handle)]) := by
  intro family table chain given rule _ hmember
  obtain ⟨record, hsingle, hcomment⟩ := record_of_memberOf? hmember
  cases hsingle
  rw [comment_ruleRecord] at hcomment
  exact ⟨added, hadded, Option.some.inj hcomment, expr_ruleRecord spec added handle⟩

/-- Commands of such rules keep a document of genuine objects genuine. -/
theorem genuine_changed {command : Command} {objects : List Json} (hcommand : command.Unspaced)
    (h : ∀ object ∈ objects, Genuine object) : ∀ object ∈ changed command objects, Genuine object := by
  intro object hobject
  cases command with
  | addTable spec =>
    rcases List.mem_append.1 hobject with hold | hnew
    · exact h object hold
    · obtain rfl := List.mem_singleton.1 hnew
      exact genuine_of_single? rfl (by decide)
  | addChain spec request =>
    rcases List.mem_append.1 hobject with hold | hnew
    · exact h object hold
    · obtain rfl := List.mem_singleton.1 hnew
      exact genuine_of_single? rfl (by decide)
  | addRule spec rule =>
    rw [changed_addRule] at hobject
    rcases List.mem_append.1 hobject with hold | hnew
    · exact h object hold
    · obtain rfl := List.mem_singleton.1 hnew
      exact genuine_added hcommand
  | deleteRule spec chain handle => exact h object (List.mem_filter.1 hobject).1

/-! ## Calls -/

/-- The document after a call was recorded. -/
def recorded (d : Document) (call : Call) : Document := { d with calls := call :: d.calls }

theorem run_list (d : Document) :
    list.run d = if d.present then
        (match d.faults.lookup (d.calls.length + 1) with
          | some .exit => .error (.failed "getting the current ruleset")
          | some .notText => .error .notText
          | some (.prints text) => printed (Json.ofText? text)
          | none => printed d.content,
        d.recorded .list)
      else (.error .missing, d) := by
  have hrecord : (record .list).run d = (d.faults.lookup (d.calls.length + 1), d.recorded .list) :=
    rfl
  unfold list
  by_cases hpresent : d.present
  · rcases hfault : d.faults.lookup (d.calls.length + 1) with _ | (_ | _ | _) <;>
      simp [hpresent, hrecord, hfault] <;> rfl
  · simp [hpresent]
    rfl

theorem run_apply (d : Document) (command : Command) :
    (apply command).run d = if d.present then
        match d.faults.lookup (d.calls.length + 1) with
        | some .exit => (.error (.failed "applying ruleset"), d.recorded (.apply command))
        | some .notText => (.error .notText, d.recorded (.apply command))
        | some (.prints _) => (.ok (), d.recorded (.apply command))
        | none =>
          (.ok (), { d.recorded (.apply command) with content := d.content.map (applied command) })
      else (.error .missing, d) := by
  have hrecord : (record (.apply command)).run d =
      (d.faults.lookup (d.calls.length + 1), d.recorded (.apply command)) := rfl
  unfold apply
  by_cases hpresent : d.present
  · rcases hfault : d.faults.lookup (d.calls.length + 1) with _ | (_ | _ | _) <;>
      simp [hpresent, hrecord, hfault] <;> rfl
  · simp [hpresent]
    rfl

/-! ## Documents that were given commands -/

/-- A document of genuine objects, of which no call prints anything else. -/
structure Honest (d : Document) : Prop where
  content : ∃ objects, d.content = ofObjects objects ∧ ∀ object ∈ objects, Genuine object
  unfaked : ∀ number text, d.faults.lookup number ≠ some (.prints text)

/-- What a document becomes by being listed and given commands. -/
inductive Reached (start : Document) : Document → Prop where
  | start : Reached start start
  | listed {d : Document} : Reached start d → Reached start (list.run d).2
  | applied {d : Document} {command : Command} : Reached start d → command.Unspaced →
      Reached start ((apply command).run d).2

variable {start d : Document}

theorem Honest.recorded (h : d.Honest) (call : Call) : (d.recorded call).Honest := ⟨h.content, h.unfaked⟩

/-- A listing leaves a document honest. -/
theorem Honest.list (h : d.Honest) : (list.run d).2.Honest := by
  rw [run_list]
  split
  · exact h.recorded .list
  · exact h

/-- So does a command that adds no rule with a blank in an interface name. -/
theorem Honest.apply {command : Command} (h : d.Honest) (hcommand : command.Unspaced) :
    ((apply command).run d).2.Honest := by
  rw [run_apply]
  split
  · split
    · exact h.recorded _
    · exact h.recorded _
    · exact h.recorded _
    · obtain ⟨objects, hcontent, hgenuine⟩ := h.content
      refine ⟨⟨changed command objects, ?_, genuine_changed hcommand hgenuine⟩, h.unfaked⟩
      change d.content.map (applied command) = _
      rw [hcontent]
      rfl
  · exact h

/-- Whatever is listed and commanded, a fingerprint stays with the statements of its rule. -/
theorem Reached.honest (h : Reached start d) (hstart : start.Honest) : d.Honest := by
  induction h with
  | start => exact hstart
  | listed _ ih => exact ih.list
  | applied _ hcommand ih => exact ih.apply hcommand

theorem Honest.printed_of_list {objects : List Json} {listed : List Listed} {d' : Document}
    (h : d.Honest) (hcontent : d.content = ofObjects objects)
    (hlist : Document.list.run d = (.ok listed, d')) : printed (ofObjects objects) = .ok listed := by
  have hresult := congrArg Prod.fst hlist
  rw [run_list] at hresult
  split at hresult
  · dsimp only at hresult
    split at hresult
    · cases hresult
    · cases hresult
    · rename_i text hfault
      exact absurd hfault (h.unfaked _ text)
    · rwa [hcontent] at hresult
  · cases hresult

end Document

/-! ## Identity -/

/-- Rules without blanks in their interface names have the same fingerprint exactly if they have the same
criteria and the same verdict, and exactly if they have the same statements. What a tool finds by the
fingerprint of such a rule, among objects that have the statements of rules with their fingerprints, has
the statements of that rule. The objects of a document stay such whatever rules are added and deleted. -/
theorem fingerprint_identifies {a b : Rule} (ha : a.Unspaced) (hb : b.Unspaced) :
    (a.fingerprint = b.fingerprint ↔ a.criteria = b.criteria ∧ a.verdict = b.verdict) ∧
      (a.fingerprint = b.fingerprint ↔ statements a = statements b) ∧
      (∀ {τ : Type} {tool : Tool τ} {t t' : τ} {objects : List Json} {spec : TableSpec}
        {handle : Nat}, (tool.list.run t).1 = Document.printed (Document.ofObjects objects) →
        (∀ object ∈ objects, Genuine object) →
        (tool.backend.findInstalled spec a).on t = (.ok (some handle), t') →
        HasRule objects spec handle a) ∧
      ∀ {start d d' : Document} {spec : TableSpec} {handle : Nat}, start.Honest →
        Document.Reached start d →
        (Document.tool.backend.findInstalled spec a).on d = (.ok (some handle), d') →
        ∃ objects, d.content = Document.ofObjects objects ∧ HasRule objects spec handle a := by
  refine ⟨fingerprint_inj ha hb, (fingerprint_inj ha hb).trans statements_inj.symm, ?_, ?_⟩
  · intro τ tool t t' objects spec handle hprints hgenuine hon
    have hlists : ∀ listed t'', tool.list.run t = (.ok listed, t'') →
        Document.printed (Document.ofObjects objects) = .ok listed := by
      intro listed t'' hlist
      rw [← hprints, hlist]
    exact (ends_findInstalled_genuine hlists hgenuine ha).of_ok hon handle rfl
  · intro start d d' spec handle hstart hreached hon
    have hhonest := hreached.honest hstart
    obtain ⟨objects, hcontent, hgenuine⟩ := hhonest.content
    have hlists : ∀ listed d'', Document.list.run d = (.ok listed, d'') →
        Document.printed (Document.ofObjects objects) = .ok listed :=
      fun _ _ => hhonest.printed_of_list hcontent
    exact ⟨objects, hcontent,
      (ends_findInstalled_genuine hlists hgenuine ha).of_ok hon handle rfl⟩

/-- Accepts what comes in from a workload for a port. -/
def demoPort : Rule := ⟨"filter", "GUEST", [.inputInterface "vm1-host", .destPort 22], .accept⟩

/-- Jumps to a chain that is named like the rest of the other rule. -/
def demoJump : Rule := ⟨"filter", "GUEST", [.inputInterface "vm1-host"], .jump "th dport 22 accept"⟩

/-- A tool that was given both rules. -/
def demoDocument : Document :=
  let given (rule : Rule) (d : Document) := ((Document.apply (.addRule ⟨"filter", .inet⟩ rule)).run d).2
  given demoPort (given demoJump ⟨Document.ofObjects [], true, [], []⟩)

/-- The texts of two rules that are accepted differ only within a word, and each rule is found. -/
theorem fingerprint_identifies_demo :
    demoJump.fault? = none ∧ demoPort.fault? = none ∧
      demoJump.fingerprint = "guestnet: iifname vm1-host jump th dport 22 accept" ∧
      demoPort.fingerprint = "guestnet: iifname vm1-host th dport 22 accept" ∧
      demoJump.fingerprint ≠ demoPort.fingerprint ∧
      (∃ objects, demoDocument.content = Document.ofObjects objects ∧
        HasRule objects ⟨"filter", .inet⟩ 1 demoJump) ∧
      ∃ objects, demoDocument.content = Document.ofObjects objects ∧
        HasRule objects ⟨"filter", .inet⟩ 2 demoPort := by
  have hjump : demoJump.Unspaced := by simp [demoJump, Rule.Unspaced, Match.Unspaced]
  have hport : demoPort.Unspaced := by simp [demoPort, Rule.Unspaced, Match.Unspaced]
  have hstart : (⟨Document.ofObjects [], true, [], []⟩ : Document).Honest :=
    ⟨⟨[], rfl, by simp⟩, by simp⟩
  have hreached : Document.Reached ⟨Document.ofObjects [], true, [], []⟩ demoDocument :=
    .applied (.applied .start hjump) hport
  have hfound (rule : Rule) (handle : Nat)
      (h : ((Document.tool.backend.findInstalled ⟨"filter", .inet⟩ rule).on demoDocument).1 =
        .ok (some handle)) :
      (Document.tool.backend.findInstalled ⟨"filter", .inet⟩ rule).on demoDocument =
        (.ok (some handle), _) := Prod.ext h rfl
  obtain ⟨-, hstatements, -, hjumps⟩ := fingerprint_identifies hjump hport
  obtain ⟨-, -, -, hports⟩ := fingerprint_identifies hport hjump
  refine ⟨by decide, by decide, by decide, by decide, mt hstatements.1 (by decide), ?_, ?_⟩
  · exact hjumps hstart hreached (hfound demoJump 1 (by rfl))
  · exact hports hstart hreached (hfound demoPort 2 (by rfl))

end WorkloadNet.Nft
