import ODataBrowser.Proofs.Query.RoundTrip

/-!
# Addresses with options of their own

A service takes the options of a URL from its query, which stands between the first question mark and the number sign
that begins the fragment. The address of a resource may have a query and a fragment, as its name is not encoded. So the
options in the URL of a query are those of the address and those that the query sends, which are lost in the fragment
where the address has one (`PageQuery.urlOptions_toUrl`). So are the sizes (`PageQuery.valuesIn_top_toUrl`).
-/

namespace ODataBrowser.Query

open Text

/-! ## The options of a whole URL -/

/-- The query of a URL, if it has one. -/
def queryIn? (url : List Char) : Option (List Char) :=
  match (url.takeWhile (· != '#')).dropWhile (· != '?') with
  | [] => none
  | _ :: query => some query

/-- An option with its name and its value decoded. -/
def decodeBoth (option : List Char × List Char) : List Char × List Char :=
  (decodeComponent option.1, decodeComponent option.2)

/-- The options of a URL as a service reads them. -/
def urlOptions (url : JsonText) : List (List Char × List Char) :=
  (((queryIn? url.shown).elim [] (splitAtEach '&')).map readOption).map decodeBoth

/-- The values of an option in a URL. -/
def valuesIn (name : String) (url : JsonText) : List (List Char) :=
  ((urlOptions url).filter (·.1 = name.toList)).map (·.2)

/-! ## Addresses without options -/

theorem queryIn?_of_not_mem {url : List Char} (h : '?' ∉ url) : queryIn? url = none := by
  have hnone : (url.takeWhile (· != '#')).dropWhile (· != '?') = [] := by
    rw [List.dropWhile_eq_nil_iff]
    intro c hc
    simpa using fun heq : c = '?' => h (heq ▸ (List.takeWhile_prefix _).subset hc)
  rw [queryIn?, hnone]

theorem urlOptions_of_not_mem {url : JsonText} (h : '?' ∉ url.shown) : urlOptions url = [] := by
  rw [urlOptions, queryIn?_of_not_mem h]
  rfl

/-! ## Addresses with options -/

/-- What stands behind a fragment belongs to it. -/
theorem queryIn?_append_of_fragment {address : List Char} (h : '#' ∈ address) (rest : List Char) :
    queryIn? (address ++ rest) = queryIn? address := by
  have hshort : (address.takeWhile (· != '#')).length ≠ address.length := by
    intro hlength
    have hall := List.takeWhile_eq_self_iff.1 ((List.takeWhile_prefix _).eq_of_length hlength)
    simpa using hall '#' h
  rw [queryIn?, List.takeWhile_append, if_neg hshort, ← queryIn?]

/-- Where there is no fragment, all behind the first question mark is the query. -/
theorem queryIn?_of_no_fragment {url : List Char} (h : '#' ∉ url) :
    queryIn? url = match url.dropWhile (· != '?') with
      | [] => none
      | _ :: query => some query := by
  have hself : url.takeWhile (· != '#') = url :=
    List.takeWhile_eq_self_iff.2 fun c hc => by simpa using fun heq : c = '#' => h (heq ▸ hc)
  rw [queryIn?, hself]

theorem dropWhile_eq_nil_of_not_mem {cs : List Char} (h : '?' ∉ cs) : cs.dropWhile (· != '?') = [] :=
  List.dropWhile_eq_nil_iff.2 fun c hc => by simpa using fun heq : c = '?' => h (heq ▸ hc)

/-- A text behind an address and a mark is the query, or the end of it. -/
theorem queryIn?_append {address text : List Char} (haddress : '#' ∉ address) (htext : '#' ∉ text) :
    queryIn? (address ++ (if address.contains '?' then '&' else '?') :: text) =
      some ((queryIn? address).elim text (· ++ '&' :: text)) := by
  have hnone : '#' ∉ address ++ (if address.contains '?' then '&' else '?') :: text := by
    split <;> simp [haddress, htext]
  rw [queryIn?_of_no_fragment hnone, queryIn?_of_no_fragment haddress, List.dropWhile_append]
  by_cases h : '?' ∈ address
  · have hcontains : address.contains '?' = true := by simpa using h
    cases hdrop : address.dropWhile (· != '?') with
    | nil => simpa using List.dropWhile_eq_nil_iff.1 hdrop '?' h
    | cons c query => simp [h]
  · simp [dropWhile_eq_nil_of_not_mem h, h]

theorem splitAtEach_append (separator : Char) (cs rest : List Char) :
    splitAtEach separator (cs ++ separator :: rest) = splitAtEach separator cs ++ splitAtEach separator rest := by
  induction cs with
  | nil => exact splitAtEach_append_cons List.not_mem_nil rest
  | cons c cs ih =>
    obtain ⟨part, parts, hcs⟩ := List.exists_cons_of_ne_nil (splitAtEach_ne_nil separator cs)
    rw [List.cons_append, splitAtEach, ih, splitAtEach, hcs, List.cons_append]
    dsimp only
    split <;> rfl

namespace PageQuery

variable {q : PageQuery}

/-- The names of the options of a query stand for themselves. -/
theorem decodeComponent_of_mem_pairs {asked : CountStrategy} (hcount : q.count = asked.parameter?)
    {pair : List Char × List Char} (h : pair ∈ q.pairs) : decodeComponent pair.1 = pair.1 := by
  have hnames : ∀ name ∈ ["$top", "$skip"] ++ ["$orderby", "$filter"], decodeComponent name.toList = name.toList := by
    decide
  have hcounts : ∀ pair ∈ asked.parameter?, decodeComponent pair.1.toList = pair.1.toList := by
    cases asked <;> decide
  exact forall_mem_pairs (P := fun pair => decodeComponent pair.1 = pair.1) (by decide)
    (fun name hname _ _ => hnames name (List.mem_append_left _ hname))
    (fun name hname _ => hnames name (List.mem_append_right _ hname)) (hcount ▸ hcounts) h

/-- Read from its text, a query gives its parameters. -/
theorem map_decodeBoth_text {asked : CountStrategy} (hcount : q.count = asked.parameter?) :
    ((splitAtEach '&' q.text).map readOption).map decodeBoth = q.parameters := by
  rw [map_readOption_text (hcount ▸ not_mem_parameter? asked),
    ← map_decodeOption_pairs (hcount ▸ isComponentChar_parameter? asked)]
  refine List.map_congr_left fun pair hpair => ?_
  rw [decodeBoth, decodeComponent_of_mem_pairs hcount hpair, decodeOption]

/-- **The options in the URL of a query** are those of the address, and behind them those of the query, unless the
address has a fragment, to which then all of the query belongs. -/
theorem urlOptions_toUrl {asked : CountStrategy} (hcount : q.count = asked.parameter?) {address url : JsonText}
    (h : q.toUrl address = .ok url) :
    urlOptions url = urlOptions address ++ if '#' ∈ address.shown then [] else q.parameters := by
  have htext : '#' ∉ q.text := fun hc =>
    (not_isBlank_of_isQueryChar (isQueryChar_of_mem_text (hcount ▸ isQueryChar_parameter? asked) hc)).2 (by simp)
  unfold urlOptions
  rw [shown_of_toUrl h]
  by_cases hfragment : '#' ∈ address.shown
  · rw [queryIn?_append_of_fragment hfragment, if_pos hfragment, List.append_nil]
  · rw [queryIn?_append hfragment htext, if_neg hfragment, ← map_decodeBoth_text hcount]
    cases queryIn? address.shown with
    | none => rfl
    | some own =>
      dsimp only [Option.elim]
      rw [splitAtEach_append, List.map_append, List.map_append]

end PageQuery

/-! ## The size in a URL -/

namespace PageQuery

variable {q : PageQuery} {asked : CountStrategy} {n : Int}

theorem map_filter_parameters_top (hcount : q.count = asked.parameter?) (htop : q.top = some n) (hpos : 0 < n) :
    (q.parameters.filter (·.1 = "$top".toList)).map (·.2) = [Numeral.ofInt n] := by
  have hsent : q.sent.top = some n := by simp [sent, htop, Option.filter, hpos]
  unfold parameters
  rw [hcount, hsent]
  cases asked <;> simp [parameter, CountStrategy.parameter?]

/-- The sizes in the URL of a query are those of the address, and behind them that of the query, unless the address has
a fragment. -/
theorem valuesIn_top_toUrl (hcount : q.count = asked.parameter?) (htop : q.top = some n) (hpos : 0 < n)
    {address url : JsonText} (h : q.toUrl address = .ok url) :
    valuesIn "$top" url =
      valuesIn "$top" address ++ if '#' ∈ address.shown then [] else [Numeral.ofInt n] := by
  rw [valuesIn, urlOptions_toUrl hcount h, List.filter_append, List.map_append, ← valuesIn]
  split
  · rfl
  · rw [map_filter_parameters_top hcount htop hpos]

end PageQuery

end ODataBrowser.Query
