import ODataBrowser.Proofs.Number.Numeral
import ODataBrowser.Proofs.Query.Options

/-!
# Queries read back from URLs

The URL of a query says what is asked for and nothing else (`PageQuery.toUrl_readBack`): split at each `&` and at the
first `=` of each part, and with its values decoded, it gives the parameters that the query sends, and two queries
have one URL just if they send the same. Where its texts are strings, only a number that is too long to be written
leaves a query without a URL (`PageQuery.toUrl_of_long_size`).
-/

namespace ODataBrowser.Query

open Text

/-- An option with its value decoded. -/
def decodeOption (option : List Char × List Char) : List Char × List Char :=
  (option.1, decodeComponent option.2)

/-- A parameter, where it has a value. -/
def parameter (name : String) (value? : Option (List Char)) : List (List Char × List Char) :=
  (value?.map (name.toList, ·)).toList

theorem lookup_parameter (key name : String) (value? : Option (List Char)) :
    (parameter name value?).lookup key.toList = if key = name then value? else none := by
  cases value? with
  | none => simp [parameter]
  | some value =>
    by_cases h : key = name
    · simp [parameter, h]
    · simp [parameter, String.toList_inj, h]

theorem isComponentChar_of_mem_ofInt {n : Int} (h : 0 < n) : ∀ c ∈ Numeral.ofInt n, isComponentChar c = true := by
  intro c hc
  cases n with
  | ofNat n =>
    have hdigit := (isDigits_toDigits n).2 c hc
    rw [isComponentChar, Char.isAlphanum, hdigit, Bool.or_true, Bool.true_or]
  | negSucc n => exact absurd h (by simp)

theorem mem_joinWith {separator : List Char} {parts : List (List Char)} {c : Char}
    (h : c ∈ joinWith separator parts) : c ∈ separator ∨ ∃ part ∈ parts, c ∈ part := by
  induction parts with
  | nil => simp [joinWith] at h
  | cons part rest ih =>
    cases rest with
    | nil => exact .inr ⟨part, List.mem_cons_self, h⟩
    | cons next rest =>
      change c ∈ part ++ separator ++ joinWith separator (next :: rest) at h
      rw [List.mem_append, List.mem_append] at h
      rcases h with (h | h) | h
      · exact .inr ⟨part, List.mem_cons_self, h⟩
      · exact .inl h
      · rcases ih h with hc | ⟨later, hlater, hc⟩
        · exact .inl hc
        · exact .inr ⟨later, List.mem_cons_of_mem _ hlater, hc⟩

namespace PageQuery

/-! ## What a query sends -/

/-- The query without the numbers that are not positive and the empty texts, which its URL leaves out. -/
def sent (q : PageQuery) : PageQuery where
  top := q.top.filter (0 < ·)
  skip := q.skip.filter (0 < ·)
  orderBy := q.orderBy.filter (!·.isEmpty)
  filter := q.filter.filter (!·.isEmpty)
  count := q.count

/-- The parameters that a query sends, with their values as they are meant. -/
def parameters (q : PageQuery) : List (List Char × List Char) :=
  parameter "$format" (some "json".toList) ++ parameter "$top" (q.sent.top.map Numeral.ofInt) ++
    parameter "$skip" (q.sent.skip.map Numeral.ofInt) ++ parameter "$orderby" (q.sent.orderBy.map JsonText.shown) ++
    parameter "$filter" (q.sent.filter.map JsonText.shown) ++
    (q.count.map fun (name, value) => (name.toList, value.toList)).toList

variable {q other : PageQuery}

/-- The URL of a query depends on what it sends only. -/
theorem toUrl_sent (q : PageQuery) (address : JsonText) : q.sent.toUrl address = q.toUrl address := by
  have hnumeric (name : String) (n? : Option Int) :
      numericOption name (n?.filter (0 < ·)) = numericOption name n? := by
    cases n? with
    | none => rfl
    | some n => by_cases h : 0 < n <;> simp [numericOption, Option.filter, h]
  have htext (name : String) (t? : Option JsonText) :
      textOption name (t?.filter (!·.isEmpty)) = textOption name t? := by
    cases t? with
    | none => rfl
    | some t =>
      cases t with
      | broken => rfl
      | string s => cases h : s.isEmpty <;> simp [textOption, Option.filter, JsonText.isEmpty, h]
  simp only [toUrl, options, sent, hnumeric, htext]

/-- With their values decoded, the options of a query are its parameters. -/
theorem map_decodeOption_pairs
    (hcount : ∀ pair ∈ q.count, pair.2.toList.all isComponentChar = true) :
    q.pairs.map decodeOption = q.parameters := by
  have hnumeric (name : String) (n? : Option Int) :
      (numericPair name n?).map decodeOption = parameter name ((n?.filter (0 < ·)).map Numeral.ofInt) := by
    cases n? with
    | none => rfl
    | some n =>
      by_cases h : 0 < n
      · have hvalue := decodeComponent_of_isComponentChar (isComponentChar_of_mem_ofInt h)
        simp [numericPair, parameter, decodeOption, Option.filter, h, hvalue]
      · simp [numericPair, parameter, Option.filter, h]
  have htext (name : String) (t? : Option JsonText) :
      (textPair name t?).map decodeOption = parameter name ((t?.filter (!·.isEmpty)).map JsonText.shown) := by
    cases t? with
    | none => rfl
    | some t =>
      have hvalue := decodeComponent_encodeComponent t.shown
      cases h : t.isEmpty <;> simp [textPair, parameter, decodeOption, Option.filter, h, hvalue]
  have hformat : decodeOption ("$format".toList, "json".toList) = ("$format".toList, "json".toList) := by
    decide
  have hlast : ((q.count.map fun (name, value) => (name.toList, value.toList)).toList).map decodeOption =
      (q.count.map fun (name, value) => (name.toList, value.toList)).toList := by
    cases hq : q.count with
    | none => rfl
    | some pair =>
      have hvalue := decodeComponent_of_isComponentChar (List.all_eq_true.1 (hcount pair hq))
      simp [decodeOption, hvalue]
  rw [pairs, List.map_cons, hformat, List.map_append, List.map_append, List.map_append, List.map_append, hnumeric,
    hnumeric, htext, htext, hlast]
  rfl

/-! ## Queries with the same parameters -/

/-- The parameters of a query are looked up by their names. -/
theorem lookup_parameters {asked : CountStrategy} (hcount : q.count = asked.parameter?) :
    q.parameters.lookup "$top".toList = q.sent.top.map Numeral.ofInt ∧
    q.parameters.lookup "$skip".toList = q.sent.skip.map Numeral.ofInt ∧
    q.parameters.lookup "$orderby".toList = q.sent.orderBy.map JsonText.shown ∧
    q.parameters.lookup "$filter".toList = q.sent.filter.map JsonText.shown := by
  have hlast : ∀ key ∈ ["$top", "$skip", "$orderby", "$filter"],
      ((q.count.map fun (name, value) => (name.toList, value.toList)).toList).lookup key.toList = none := by
    rw [hcount]
    cases asked <;> decide
  have htop := hlast "$top" (by simp)
  have hskip := hlast "$skip" (by simp)
  have horder := hlast "$orderby" (by simp)
  have hfilter := hlast "$filter" (by simp)
  simp only [parameters, List.lookup_append, lookup_parameter, htop, hskip, horder, hfilter, String.reduceEq,
    ↓reduceIte, Option.none_or, Option.or_none, and_self]

/-- Texts that are sent from strings are known by what is shown of them. -/
theorem filter_eq_of_map_shown {t? u? : Option JsonText} (ht : ∀ t ∈ t?, t.isString = true)
    (hu : ∀ u ∈ u?, u.isString = true)
    (h : (t?.filter (!·.isEmpty)).map JsonText.shown = (u?.filter (!·.isEmpty)).map JsonText.shown) :
    t?.filter (!·.isEmpty) = u?.filter (!·.isEmpty) := by
  have hstring {v? : Option JsonText} (hv : ∀ v ∈ v?, v.isString = true) :
      v?.filter (!·.isEmpty) = ((v?.filter (!·.isEmpty)).map JsonText.shown).map .ofChars := by
    cases hsent : v?.filter (!·.isEmpty) with
    | none => rfl
    | some v =>
      obtain ⟨cs, rfl⟩ := JsonText.exists_ofChars_of_isString (hv v (Option.filter_eq_some_iff.1 hsent).1)
      rw [Option.map_some, Option.map_some, JsonText.shown_ofChars]
  rw [hstring ht, hstring hu, h]

/-- The parameters of a query say what it sends, if its texts are strings. -/
theorem sent_eq_of_parameters_eq {asked otherAsked : CountStrategy} (hcount : q.count = asked.parameter?)
    (hother : other.count = otherAsked.parameter?)
    (hstrings : (∀ t ∈ q.orderBy, t.isString = true) ∧ ∀ t ∈ q.filter, t.isString = true)
    (hstrings' : (∀ t ∈ other.orderBy, t.isString = true) ∧ ∀ t ∈ other.filter, t.isString = true)
    (h : q.parameters = other.parameters) : q.sent = other.sent := by
  obtain ⟨htop, hskip, horder, hfilter⟩ := lookup_parameters hcount
  obtain ⟨htop', hskip', horder', hfilter'⟩ := lookup_parameters hother
  rw [h] at htop hskip horder hfilter
  have htops : q.sent.top = other.sent.top :=
    Option.map_injective Numeral.ofInt_injective (htop.symm.trans htop')
  have hskips : q.sent.skip = other.sent.skip :=
    Option.map_injective Numeral.ofInt_injective (hskip.symm.trans hskip')
  have horders : q.sent.orderBy = other.sent.orderBy :=
    filter_eq_of_map_shown hstrings.1 hstrings'.1 (horder.symm.trans horder')
  have hfilters : q.sent.filter = other.sent.filter :=
    filter_eq_of_map_shown hstrings.2 hstrings'.2 (hfilter.symm.trans hfilter')
  -- With all but the last the same, the lists of parameters differ in the counting option at most.
  have hcounts : q.count = other.count := by
    rw [parameters, parameters, htops, hskips, horders, hfilters] at h
    have hlast := congrArg List.head? (List.append_cancel_left h)
    rw [Option.head?_toList, Option.head?_toList] at hlast
    refine Option.map_injective (fun pair pair' heq => ?_) hlast
    obtain ⟨hname, hvalue⟩ := Prod.mk.inj heq
    exact Prod.ext (String.toList_injective hname) (String.toList_injective hvalue)
  have hsent (q : PageQuery) : q.sent = ⟨q.sent.top, q.sent.skip, q.sent.orderBy, q.sent.filter, q.count⟩ := rfl
  rw [hsent q, hsent other, htops, hskips, horders, hfilters, hcounts]

/-! ## The text of a query -/

/-- A query is written in ASCII, and without the marks that end it elsewhere. -/
theorem isQueryChar_of_mem_text
    (hcount : ∀ pair ∈ q.count, (pair.1.toList ++ pair.2.toList).all isQueryChar = true) {c : Char}
    (h : c ∈ q.text) : isQueryChar c = true := by
  have hself {c : Char} (hc : isComponentChar c = true) : isQueryChar c = true := by
    rw [isQueryChar, hc, Bool.true_or]
  have hnames : ∀ name ∈ ["$top", "$skip"] ++ ["$orderby", "$filter"], name.toList.all isQueryChar = true := by
    decide
  have hpairs {pair : List Char × List Char} (hpair : pair ∈ q.pairs) :
      (pair.1 ++ pair.2).all isQueryChar = true := by
    refine forall_mem_pairs (P := fun pair => (pair.1 ++ pair.2).all isQueryChar = true) (by decide)
      (fun name hname n hn => ?_) (fun name hname cs => ?_) hcount hpair
    · rw [List.all_append, hnames name (List.mem_append_left _ hname), Bool.true_and, List.all_eq_true]
      exact fun c hc => hself (isComponentChar_of_mem_ofInt hn c hc)
    · rw [List.all_append, hnames name (List.mem_append_right _ hname), Bool.true_and, List.all_eq_true]
      intro c hc
      rcases isComponentChar_of_mem hc with hc | rfl
      · exact hself hc
      · rfl
  rcases mem_joinWith h with hc | ⟨part, hpart, hc⟩
  · rw [List.mem_singleton.1 hc]
    rfl
  · obtain ⟨pair, hpair, rfl⟩ := List.mem_map.1 hpart
    have hall := List.all_eq_true.1 (hpairs hpair)
    rw [optionText, List.mem_append, List.mem_cons] at hc
    rcases hc with hc | rfl | hc
    · exact hall c (List.mem_append_left _ hc)
    · rfl
    · exact hall c (List.mem_append_right _ hc)

/-! ## The URL -/

theorem isComponentChar_parameter? (strategy : CountStrategy) :
    ∀ pair ∈ strategy.parameter?, pair.2.toList.all isComponentChar = true := by
  cases strategy <;> decide

theorem isQueryChar_parameter? (strategy : CountStrategy) :
    ∀ pair ∈ strategy.parameter?, (pair.1.toList ++ pair.2.toList).all isQueryChar = true := by
  cases strategy <;> decide

/-- The options in a URL, with their values decoded, are the parameters of its query. -/
theorem map_decodeOption_optionsIn {asked : CountStrategy} (hcount : q.count = asked.parameter?)
    {address url : JsonText} (h : q.toUrl address = .ok url) :
    (optionsIn address url).map decodeOption = q.parameters := by
  rw [optionsIn_toUrl (hcount ▸ not_mem_parameter? asked) h]
  exact map_decodeOption_pairs (hcount ▸ isComponentChar_parameter? asked)

theorem url_eq_iff {asked otherAsked : CountStrategy} (hcount : q.count = asked.parameter?)
    (hother : other.count = otherAsked.parameter?) {address url otherUrl : JsonText}
    (h : q.toUrl address = .ok url) (h' : other.toUrl address = .ok otherUrl) :
    url = otherUrl ↔ q.sent = other.sent := by
  constructor
  · rintro rfl
    apply sent_eq_of_parameters_eq hcount hother ((q.exists_toUrl_iff_forall address).1 ⟨url, h⟩).2.2
      ((other.exists_toUrl_iff_forall address).1 ⟨url, h'⟩).2.2
    rw [← map_decodeOption_optionsIn hcount h, map_decodeOption_optionsIn hother h']
  · intro hsent
    rw [← toUrl_sent, hsent, toUrl_sent] at h
    exact Except.ok.inj (h.symm.trans h')

/-- **The URL of a query is read back.** A query has a URL just if its size and its offset can be written. The URL is
the address with a mark and a text behind it, which holds ASCII characters only, no white space, `#`, `+` or quotation
mark. Split at each `&`, its parts at their first `=`, and its values decoded, the text gives the parameters of the
query in their order. The URLs of two queries are the same just if the queries send the same. -/
theorem toUrl_readBack (address : JsonText) (top skip : Option Int) (orderBy filter : Option String)
    (asked : CountStrategy) :
    let q : PageQuery := ⟨top, skip, orderBy.map .string, filter.map .string, asked.parameter?⟩
    ((∃ url, q.toUrl address = .ok url) ↔ (∀ n ∈ top, IsWritable n) ∧ ∀ n ∈ skip, IsWritable n) ∧
    ∀ url, q.toUrl address = .ok url →
      (∃ text : List Char,
        url = address ++ .ofChars ((if address.shown.contains '?' then '&' else '?') :: text) ∧
        ((splitAtEach '&' text).map readOption).map decodeOption = q.parameters ∧
        ∀ c ∈ text, c.toNat < 128 ∧ isBlank c = false ∧ c ∉ ['#', '+', '"']) ∧
      ∀ (other : PageQuery) (otherAsked : CountStrategy) (otherUrl : JsonText), other.count = otherAsked.parameter? →
        other.toUrl address = .ok otherUrl → (url = otherUrl ↔ q.sent = other.sent) := by
  intro q
  have hcount : q.count = asked.parameter? := rfl
  have hwritable : (∃ url, q.toUrl address = .ok url) ↔ (∀ n ∈ top, IsWritable n) ∧ ∀ n ∈ skip, IsWritable n := by
    rw [exists_toUrl_iff_forall]
    have hstrings : q.HasStrings := ⟨isString_of_map_string orderBy, isString_of_map_string filter⟩
    exact and_congr_right fun _ => and_iff_left hstrings
  refine ⟨hwritable, fun url hurl => ⟨⟨q.text, eq_append_of_toUrl hurl, ?_, fun c hc => ?_⟩,
    fun other otherAsked otherUrl hother hotherUrl => url_eq_iff hcount hother hurl hotherUrl⟩⟩
  · rw [map_readOption_text (not_mem_parameter? asked)]
    exact map_decodeOption_pairs (isComponentChar_parameter? asked)
  · have hchar := isQueryChar_of_mem_text (isQueryChar_parameter? asked) hc
    exact ⟨toNat_lt_of_isQueryChar hchar, not_isBlank_of_isQueryChar hchar⟩

/-- A page of `10 ^ 4300` rows cannot be asked for: the size has more digits than a number may have. -/
theorem toUrl_of_long_size :
    PageQuery.toUrl { top := some (tenPow Numeral.maxDigits : Nat) } "https://host/svc/P" = .error .unreadable := by
  have hlong : ¬IsWritable (tenPow Numeral.maxDigits : Nat) := lt_irrefl _
  rw [toUrl, options, numericOption_of_not_writable "$top" hlong]
  rfl

/-- A filter with separators and a letter beyond ASCII, behind an address with a query. An offset of zero is not
sent. -/
example :
    (PageQuery.toUrl { top := some 5, skip := some 0, filter := some "A eq '&=é'", count := some ("$count", "true") }
      "https://host/svc/P?v=1").toOption =
    some "https://host/svc/P?v=1&$format=json&$top=5&$filter=A%20eq%20'%26%3D%C3%A9'&$count=true" := by
  decide +kernel

end PageQuery

end ODataBrowser.Query
