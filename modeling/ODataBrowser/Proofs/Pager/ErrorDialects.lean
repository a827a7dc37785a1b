import ODataBrowser.Proofs.Pager.LastAnswer
import ODataBrowser.Proofs.Pager.Likeness
import ODataBrowser.Proofs.Service.Message

/-!
# Loads that are refused in all dialects

What a load does after an error response depends on the status and on the message, but not on the dialect in which the
body carries it (`Pager.load_of_same_message`). So a rejection of the counting option is negotiated away in JSON as in
XML. A message that the readers of these do not get at is not found (`Pager.load_depends_on_reading`).
-/

namespace ODataBrowser

open Query Text

/-- Error responses with one status and one message are alike. -/
theorem Outcome.isLike_of_ofResponse {r s : Response} {message : JsonText} (hstatus : 400 ≤ r.status)
    (hsame : s.status = r.status) (h : ErrorMessage.ofResponse r = .ok message)
    (h' : ErrorMessage.ofResponse s = .ok message) : (Outcome.response r).IsLike (.response s) := by
  intro url
  have hrefused : ∀ {t : Response}, t.status = r.status → ErrorMessage.ofResponse t = .ok message →
      ∃ e, Page.ofOutcome (.response t) url = .error (.request (.refused e)) ∧ e.status = .int r.status ∧
        e.message = .textual message := by
    intro t hs hmessage
    obtain ⟨e, he⟩ : ∃ e, t.refusal url = .ok e := by
      unfold Response.refusal
      rw [hmessage]
      exact ⟨_, rfl⟩
    obtain ⟨message', hmessage', hestatus, hemessage⟩ := Response.refusal_eq_ok he
    obtain rfl := Except.ok.inj (hmessage.symm.trans hmessage')
    refine ⟨e, ?_, by rw [hestatus, hs], hemessage⟩
    rw [Page.ofOutcome_of_error (by rw [hs]; exact hstatus), he]
    rfl
  obtain ⟨e, he, hestatus, hemessage⟩ := hrefused rfl h
  obtain ⟨e', he', hestatus', hemessage'⟩ := hrefused hsame h'
  exact .inr ⟨e, e', he, he', hestatus'.trans hestatus.symm, hemessage'.trans hemessage.symm⟩

/-- An error response that is nested too deeply is no refusal. -/
theorem Page.ofOutcome_of_tooDeep {r : Response} (hstatus : 400 ≤ r.status)
    (hread : Json.read? r.body = .error .tooDeep) (url : JsonText) : ofOutcome (.response r) url = .error .tooDeep := by
  rw [ofOutcome_of_error hstatus, Response.refusal_of_tooDeep hread]
  rfl

namespace Pager

open ErrorMessage

variable (p : Pager) (session : Session) (arguments : LoadArguments)

/-- **Loads do not depend on the dialect of a message.** If two error responses have the same status and carry the same
message, a load sends the same requests with either, comes to the same state, and has the same result or the same fetch
error. -/
theorem load_of_same_message {r s : Response} {m : JsonText} (hm : m.strip.isEmpty = false) (hstatus : 400 ≤ r.status)
    (hsame : s.status = r.status) (h : Carries m r.body) (h' : Carries m s.body) (before after : List Outcome) :
    (p.load session arguments (before ++ .response r :: after)).IsLike
      (p.load session arguments (before ++ .response s :: after)) :=
  p.load_congr_of_isLike session (Outcome.isLike_of_ofResponse hstatus hsame (ofResponse_of_carries hm h)
    (ofResponse_of_carries hm h')) before after arguments

/-- A rejection of the counting option is negotiated away both in JSON and in XML. -/
theorem load_of_same_message_of_json_and_xml :
    let m : JsonText := .string "$inlinecount is not a valid option"
    let r : Response := ⟨400, "", [],
      "\x7b\"error\":\x7b\"message\":\x7b\"value\":\" $inlinecount is not a valid option\"\x7d\x7d\x7d"⟩
    let s : Response := ⟨400, "Bad Request", [],
      "<e xmlns='urn:e'><message> </message><message>$inlinecount is not a valid option\n</message></e>"⟩
    let load (r : Response) := (start 25 .inlinecount).load (.anonymous "https://host/svc") { resource := .text "P" }
      [.response r, .json 200 "[]"]
    m.strip.isEmpty = false ∧ 400 ≤ r.status ∧ s.status = r.status ∧ Carries m r.body ∧ Carries m s.body ∧
    (load r).IsLike (load s) ∧ (load s).sent.length = 2 := by
  intro m r s load
  have hm : m.strip.isEmpty = false := by decide +kernel
  have hjson : Carries m r.body := by
    have hread : Json.read? r.body = .ok (some (.ofFields [("error", .ofFields [("message", .ofFields [
        ("value", .text " $inlinecount is not a valid option")])])])) := Fault.eq_ok_of_toOption (by decide +kernel)
    exact .error hread (.inr rfl) (by decide +kernel)
  have hxml : Carries m s.body := by
    have hfound : ((Xml.read? s.body).bind fun root => root.elements.find? fun node =>
        node.isNamed "message" && !(strip node.leadingText).isEmpty).map (·.leadingText) =
          some "$inlinecount is not a valid option\n".toList := by decide +kernel
    obtain ⟨node, hnode, htext⟩ := Option.map_eq_some_iff.1 hfound
    obtain ⟨root, hread, hfirst⟩ := Option.bind_eq_some_iff.1 hnode
    refine .xml (by decide +kernel) hread hfirst ?_
    rw [htext]
    decide +kernel
  have hlike : (load r).IsLike (load s) :=
    load_of_same_message _ _ _ (r := r) (s := s) hm (by decide) rfl hjson hxml [] [.json 200 "[]"]
  refine ⟨hm, by decide, rfl, hjson, hxml, hlike, ?_⟩
  rw [hlike.sent]
  decide +kernel

/-- A long object that is not read makes a load step down no more than an empty body. -/
theorem load_sent_of_unread {body : String} {cs : List Char} (hread : Json.read? body = .ok none)
    (hbody : body = String.ofList ('\x7b' :: (cs ++ ['\x7d']))) (hlong : 300 ≤ cs.length)
    (before after : List Outcome) :
    (p.load session arguments (before ++ .json 400 body :: after)).sent =
      (p.load session arguments (before ++ .json 400 "" :: after)).sent := by
  let answer (body : String) : Response := ⟨400, "", [("Content-Type", .text "application/json")], body⟩
  have hstatus : ofStatus 400 "" = "HTTP 400" := by decide +kernel
  have hempty : ofResponse (answer "") = .ok (.string "HTTP 400") := Fault.eq_ok_of_toOption (by decide +kernel)
  have hmessage : ofResponse (answer body) = .ok (.string "HTTP 400") :=
    (ofResponse_of_unread (r := answer body) hread hbody hlong).trans
      (congrArg (fun message => Except.ok (JsonText.string message)) hstatus)
  have hlike := Outcome.isLike_of_ofResponse (r := answer "") (s := answer body) (le_refl (400 : Int)) rfl hempty
    hmessage
  exact (p.load_congr_of_isLike session hlike before after arguments).sent

/-- Not every body that has a message in it is read. An integer of 4301 digits in front of it or a byte order mark hides
the rejection, so the load does not step down, and 3000 brackets end it in another fault. -/
theorem load_depends_on_reading :
    let message := "$count is not a valid option"
    let behind (value : List Char) :=
      String.ofList ("\x7b\"n\":".toList ++ (value ++ ',' :: ("\"message\":\"" ++ message ++ "\"\x7d").toList))
    let marked := "\uFEFF<e><message>" ++ message ++ "</message></e>"
    let load (body : String) := (start 25 .count).load (.anonymous "https://host/svc")
      (integerArguments "P" 0 none [] [] false) [.json 400 body, .json 200 "[]"]
    (load (behind ['1'])).sent.length = 2 ∧
    (load (behind (Json.ones 4301))).sent.length = 1 ∧
    (load (behind (List.replicate 3000 '[' ++ List.replicate 3000 ']'))).result = .error .tooDeep ∧
    (Xml.read? marked).map (fun root => (root.elements.filter (·.isNamed "message")).map (·.leadingText)) =
      some [message.toList] ∧
    (load marked).sent.length = 1 := by
  intro message behind marked load
  have hlong (n : Nat) (hn : Numeral.maxDigits < n) : (load (behind (Json.ones n))).sent.length = 1 := by
    have hobject : behind (Json.ones n) = String.ofList ('\x7b' :: (("\"n\":".toList ++ (Json.ones n ++
        (",\"message\":\"" ++ message ++ "\"").toList)) ++ ['\x7d'])) := by
      simp [behind, message]
    have hlength : 300 ≤ ("\"n\":".toList ++
        (Json.ones n ++ (",\"message\":\"" ++ message ++ "\"").toList)).length := by
      have hmany : 300 ≤ Numeral.maxDigits := by decide
      rw [List.length_append, List.length_append, Json.length_ones]
      omega
    have hsent : (load (behind (Json.ones n))).sent = (load "").sent :=
      load_sent_of_unread _ _ _ (Json.read?_ones_field hn _) hobject hlength [] [.json 200 "[]"]
    rw [hsent]
    decide +kernel
  have hdeep (n : Nat) (hn : Json.maxDepth ≤ n) :
      (load (behind (List.replicate n '[' ++ List.replicate n ']'))).result = .error .tooDeep := by
    let r : Response := ⟨400, "", [("Content-Type", .text "application/json")],
      behind (List.replicate n '[' ++ List.replicate n ']')⟩
    have hread : Json.read? r.body = .error .tooDeep := by
      simp only [r, behind, List.append_assoc]
      exact Json.read?_brackets_field hn _
    have hsize : IsWritable (start 25 .count).defaultSize := by
      unfold IsWritable
      decide +kernel
    exact load_of_tooDeep _ _ (Page.ofOutcome_of_tooDeep (r := r) (le_refl (400 : Int)) hread) [] [.json 200 "[]"]
      (List.length_pos_iff.2 (load_sent_ne_nil _ _ "P" hsize _))
  refine ⟨by decide +kernel, hlong 4301 (by decide +kernel), hdeep 3000 (by decide +kernel), by decide +kernel,
    by decide +kernel⟩

end Pager

end ODataBrowser
