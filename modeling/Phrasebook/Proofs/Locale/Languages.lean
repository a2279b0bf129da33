import Phrasebook.Proofs.Locale.SharedCaches

/-!
# Texts in all known languages

The texts of a key in the current locale and in every known language are looked up one after the
other. Each lookup may fill the cache, but what a request gives is not changed by requests of the
same loader before it, so each text is the one that a lookup of its own gives in the store at the
beginning. The first lookup that fails makes them all fail. Otherwise the texts that say nothing new
are left out, and each of them is found again as the default one.
-/

namespace Phrasebook

/-! ## The first failure -/

section FirstFailure

variable {ε α β γ : Type} {f : α → Except ε β} {x : α} {xs : List α} {e other : ε}

/-- Taken in order, a function succeeds up to an element of a list and fails there. -/
def FailsFirst (f : α → Except ε β) (xs : List α) (e : ε) : Prop :=
  ∃ before x after, xs = before ++ x :: after ∧ (∀ y ∈ before, ∃ b, f y = .ok b) ∧
    f x = .error e

theorem failsFirst_cons_of_error (hx : f x = .error other) (xs : List α) :
    FailsFirst f (x :: xs) e ↔ other = e := by
  constructor
  · rintro ⟨before, y, after, hsplit, hbefore, hy⟩
    cases before with
    | nil =>
        cases hsplit
        exact Except.error.inj (hx.symm.trans hy)
    | cons first rest =>
        cases hsplit
        obtain ⟨b, hb⟩ := hbefore x List.mem_cons_self
        cases hx.symm.trans hb
  · rintro rfl
    exact ⟨[], x, xs, rfl, fun _ hy => absurd hy List.not_mem_nil, hx⟩

theorem failsFirst_cons_of_ok {b : β} (hx : f x = .ok b) (xs : List α) :
    FailsFirst f (x :: xs) e ↔ FailsFirst f xs e := by
  constructor
  · rintro ⟨before, y, after, hsplit, hbefore, hy⟩
    cases before with
    | nil =>
        cases hsplit
        cases hx.symm.trans hy
    | cons first rest =>
        cases hsplit
        exact ⟨rest, y, after, rfl, (List.forall_mem_cons.1 hbefore).2, hy⟩
  · rintro ⟨before, y, after, rfl, hbefore, hy⟩
    exact ⟨x :: before, y, after, rfl, List.forall_mem_cons.2 ⟨⟨b, hx⟩, hbefore⟩, hy⟩

theorem not_failsFirst_nil (f : α → Except ε β) (e : ε) : ¬ FailsFirst f [] e := by
  rintro ⟨before, x, after, hsplit, -⟩
  exact List.append_ne_nil_of_right_ne_nil before (List.cons_ne_nil x after) hsplit.symm

theorem FailsFirst.exists_error (h : FailsFirst f xs e) : ∃ x ∈ xs, f x = .error e := by
  obtain ⟨before, x, after, rfl, -, hx⟩ := h
  exact ⟨x, List.mem_append_right before List.mem_cons_self, hx⟩

/-- There is one first failure. -/
theorem FailsFirst.unique (h : FailsFirst f xs e) (h' : FailsFirst f xs other) : e = other := by
  induction xs with
  | nil => exact absurd h (not_failsFirst_nil f e)
  | cons x rest ih =>
      cases hx : f x with
      | error first =>
          rw [failsFirst_cons_of_error hx] at h h'
          exact h.symm.trans h'
      | ok b =>
          rw [failsFirst_cons_of_ok hx] at h h'
          exact ih h h'

theorem FailsFirst.map (h : FailsFirst f xs e) (g : β → γ) :
    FailsFirst (fun x => (f x).map g) xs e := by
  obtain ⟨before, x, after, hsplit, hbefore, hx⟩ := h
  refine ⟨before, x, after, hsplit, ?_, ?_⟩
  · intro y hy
    obtain ⟨b, hb⟩ := hbefore y hy
    exact ⟨g b, congrArg (Except.map g) hb⟩
  · exact congrArg (Except.map g) hx

/-- A function succeeds on all elements of a list or fails first on one of them. -/
theorem all_ok_or_failsFirst (f : α → Except ε β) (xs : List α) :
    (∀ x ∈ xs, ∃ b, f x = .ok b) ∨ ∃ e, FailsFirst f xs e := by
  induction xs with
  | nil => exact .inl fun _ hx => absurd hx List.not_mem_nil
  | cons x rest ih =>
      cases hx : f x with
      | error e => exact .inr ⟨e, (failsFirst_cons_of_error hx rest).2 rfl⟩
      | ok b =>
          obtain hall | ⟨e, hfirst⟩ := ih
          · exact .inl (List.forall_mem_cons.2 ⟨⟨b, hx⟩, hall⟩)
          · exact .inr ⟨e, (failsFirst_cons_of_ok hx rest).2 hfirst⟩

end FirstFailure

namespace Locale

open Resources

/-! ## Requests of one loader -/

namespace Request

variable {r : Request} {fs : FileSystem} {s : Store} {run : List Request}

/-- For a locale that is no text no files are resolved, with the same error in every store. -/
theorem exists_error_of_not_text [Platform] {locale : Value} (h : ∀ tag, locale ≠ .text tag)
    (fs : FileSystem) (loader : Loader) (source : Text) :
    ∃ e, ∀ s, (Request.mk loader ⟨source, none⟩ locale).items fs s = .error e := by
  have hsame : ∀ s, (Lookup.load fs loader ⟨source, none⟩ locale s).1 =
      (Lookup.load fs loader ⟨source, none⟩ locale .empty).1 := by
    intro s
    cases locale with
    | text tag => exact absurd rfl (h tag)
    | _ =>
        rw [Lookup.load.eq_def, Lookup.load.eq_def]
        dsimp only
        split
        · rfl
        · rfl
  cases hresult : (Lookup.load fs loader ⟨source, none⟩ locale .empty).1.result with
  | ok id => exact absurd hresult (load_ne_ok_of_not_text h loader source)
  | error e =>
      refine ⟨e, ?_⟩
      intro s
      rw [items, load, hsame, hresult]
      rfl

/-- What requests that lay out files alike make of a key is what each of them makes of it alone. -/
theorem alone_of_firstOffer [Platform] {cache : CacheId} {key : BundleKey} {entries : Entries}
    (hasks : r.Asks cache key) (hrun : ∀ q ∈ run, q.loader.layout = r.loader.layout)
    (hfirst : firstOffer fs cache key run = some entries) : r.alone fs = .ok entries := by
  obtain ⟨maker, hmaker, hoffer⟩ := List.exists_of_findSome?_eq_some hfirst
  obtain ⟨hmakes, halone⟩ := offer_eq_some_iff.1 hoffer
  have hresolve := (alone_eq_ok_iff hmakes).1 halone
  rw [hrun maker hmaker] at hresolve
  exact (alone_eq_ok_iff hasks).2 hresolve

/-- What a request gives is not changed by requests before it that lay out files as it does. -/
theorem items_loadAll_of_layout [Platform] (hs : s.KnowsHeld)
    (hknown : ∀ id, r.bundle.precomputed = some id → id < s.nextId)
    (hrun : ∀ q ∈ run, q.loader.layout = r.loader.layout) (fs : FileSystem) :
    r.items fs (loadAll fs s run) = r.items fs s := by
  have hgrows := grows_loadAll fs s run
  obtain ⟨loader, ⟨source, precomputed⟩, locale⟩ := r
  cases precomputed with
  | some id =>
      rw [items, items, load, load_of_precomputed, load_of_precomputed]
      exact congrArg Except.ok (hgrows.entries (hknown id rfl))
  | none =>
      by_cases htext : ∃ tag, locale = .text tag
      · obtain ⟨tag, rfl⟩ := htext
        have hasks : Asks ⟨loader, ⟨source, none⟩, .text tag⟩ loader.cache ⟨source, tag⟩ :=
          ⟨rfl, rfl, rfl⟩
        cases hheld : s.held loader.cache ⟨source, tag⟩ with
        | some id =>
            rw [items_of_held hasks (hgrows.held hheld), items_of_held hasks hheld,
              hgrows.entries (hs _ _ id hheld)]
        | none =>
            rw [items_loadAll hasks hheld, items_of_missed hasks hheld, ← alone_eq hasks fs]
            cases hfirst : firstOffer fs loader.cache ⟨source, tag⟩ run with
            | none => rfl
            | some entries => exact (alone_of_firstOffer hasks hrun hfirst).symm
      · obtain ⟨e, herror⟩ := exists_error_of_not_text
          (fun tag heq => htext ⟨tag, heq⟩) fs loader source
        rw [herror, herror]

end Request

namespace Localizer

variable {l : Localizer} {fs : FileSystem} {context : Option RequestContext} {bundle : Bundle}
  {s t : Store} {key : Value} {default : Text} {text : Text → Text}
  {languages : List (Text × Text)} {e : Error}

/-! ## One lookup after others -/

/-- A text is made of what the request of its lookup gives. -/
theorem result_formatLocale [Platform] (l : Localizer) (fs : FileSystem)
    (context : Option RequestContext)
    (locale : Value) (bundle : Bundle) (key : Value) (args : List Value) (s : Store) :
    (l.formatLocale fs context locale bundle (key :: args) s).1.result =
      (((l.request context bundle locale).items fs s).bind fun entries =>
        textOf entries key).bind fun template => filled template args := by
  rw [formatLocale, Lookup.result_bind, lookup, Lookup.result_bind]
  change (Except.bind (Except.bind ((l.request context bundle locale).load fs s).1.result _) _) = _
  rw [Request.items]
  cases ((l.request context bundle locale).load fs s).1.result with
  | error e => rfl
  | ok id => rfl

/-- A store after loads that a localizer has made. -/
def LoadsTo [Platform] (l : Localizer) (fs : FileSystem) (s t : Store) : Prop :=
  ∃ run, (∀ r ∈ run, r.loader = l.loader) ∧ t = Request.loadAll fs s run

theorem LoadsTo.refl [Platform] (l : Localizer) (fs : FileSystem) (s : Store) : l.LoadsTo fs s s :=
  ⟨[], fun _ hr => absurd hr List.not_mem_nil, rfl⟩

theorem LoadsTo.formatLocale [Platform] (h : l.LoadsTo fs s t) (context : Option RequestContext)
    (locale : Value) (bundle : Bundle) (args : List Value) :
    l.LoadsTo fs s (l.formatLocale fs context locale bundle args t).2 := by
  obtain ⟨run, hrun, rfl⟩ := h
  obtain ⟨made, hmade, hstore⟩ :=
    l.formatLocale_makes fs context bundle (List.mem_singleton_self _) args
      (Request.loadAll fs s run)
  refine ⟨run ++ made, ?_, ?_⟩
  · intro r hr
    obtain hold | hnew := List.mem_append.1 hr
    · exact hrun r hold
    · rw [List.mem_singleton.1 (hmade r hnew)]
      rfl
  · rw [hstore, Request.loadAll_append]

/-- What a lookup answers is not changed by loads of the localizer before it. -/
theorem LoadsTo.result_formatLocale [Platform] (h : l.LoadsTo fs s t) (hs : s.KnowsHeld)
    (hbundle : ∀ id, bundle.precomputed = some id → id < s.nextId) (locale : Value) :
    (l.formatLocale fs context locale bundle [key] t).1.result =
      (l.formatLocale fs context locale bundle [key] s).1.result := by
  obtain ⟨run, hrun, rfl⟩ := h
  have hlayouts : ∀ q ∈ run, q.loader.layout = l.loader.layout := by
    intro q hq
    rw [hrun q hq]
  rw [Localizer.result_formatLocale, Localizer.result_formatLocale,
    Request.items_loadAll_of_layout hs hbundle hlayouts]

/-! ## The texts that are listed -/

/-- The texts that are listed for some languages, by their long codes: those that differ from the
default text, and the English one. -/
def listed (default : Text) (text : Text → Text) (languages : List (Text × Text)) :
    List (Text × Text) :=
  (languages.filter fun (language, _) => language = english ∨ text language ≠ default).map
    fun (language, code) => (code, text language)

theorem listed_cons (default : Text) (text : Text → Text) (language code : Text)
    (rest : List (Text × Text)) :
    listed default text ((language, code) :: rest) =
      if language = english ∨ text language ≠ default then
        (code, text language) :: listed default text rest
      else listed default text rest := by
  rw [listed, List.filter_cons]
  simp only [decide_eq_true_eq]
  split
  · rfl
  · rfl

/-- Long codes are listed in the order of their languages. -/
theorem keys_listed_sublist (default : Text) (text : Text → Text)
    (languages : List (Text × Text)) :
    (Dict.keys (listed default text languages)).Sublist (languages.map Prod.snd) := by
  have hkeys : Dict.keys (listed default text languages) =
      (languages.filter fun (language, _) =>
        language = english ∨ text language ≠ default).map Prod.snd := by
    rw [Dict.keys, listed, List.map_map]
    rfl
  rw [hkeys]
  exact List.filter_sublist.map Prod.snd

/-- A long code is listed with the text of its language, unless that says nothing new. -/
theorem get?_listed (hnodup : (languages.map Prod.snd).Nodup) {language code : Text}
    (hmem : (language, code) ∈ languages) :
    Dict.get? (listed default text languages) code =
      if language = english ∨ text language ≠ default then some (text language) else none := by
  induction languages with
  | nil => cases hmem
  | cons entry rest ih =>
      obtain ⟨first, other⟩ := entry
      obtain ⟨hother, hrest⟩ := List.nodup_cons.1 hnodup
      rw [listed_cons]
      obtain heq | hlater := List.mem_cons.1 hmem
      · cases heq
        split
        · exact if_pos rfl
        · rw [Dict.get?_eq_none_iff]
          exact fun hcode => hother ((keys_listed_sublist default text rest).subset hcode)
      · have hne : other ≠ code := by
          rintro rfl
          exact hother (List.mem_map.2 ⟨_, hlater, rfl⟩)
        rw [← ih hrest hlater]
        split
        · exact if_neg hne
        · rfl

/-! ## Known languages -/

theorem nodup_listedNames : (defaultName :: longCodes.map Prod.snd).Nodup := by
  decide

theorem eq_english_iff : ∀ entry ∈ longCodes, entry.1 = english ↔ entry.2 = "en-us".toList := by
  decide

/-- The default text, and after it the texts that are listed for all known languages. -/
def allListed (default : Text) (text : Text → Text) : List (Text × Text) :=
  (defaultName, default) :: listed default text longCodes

theorem nodup_keys_allListed (default : Text) (text : Text → Text) :
    (Dict.keys (allListed default text)).Nodup :=
  nodup_listedNames.sublist ((keys_listed_sublist default text longCodes).cons_cons defaultName)

theorem get?_allListed {language code : Text} (hmem : (language, code) ∈ longCodes) :
    Dict.get? (allListed default text) code =
      if language = english ∨ text language ≠ default then some (text language) else none := by
  obtain ⟨hdefault, hcodes⟩ := List.nodup_cons.1 nodup_listedNames
  have hne : defaultName ≠ code := by
    rintro rfl
    exact hdefault (List.mem_map.2 ⟨_, hmem, rfl⟩)
  rw [allListed, Dict.get?, if_neg hne]
  exact get?_listed hcodes hmem

/-- The text of a language is found under its long code or is the default one. -/
theorem getD_get?_allListed {language code : Text} (hmem : (language, code) ∈ longCodes) :
    (Dict.get? (allListed default text) code).getD default = text language := by
  rw [get?_allListed hmem]
  split
  · rfl
  · rename_i hrepeats
    rw [not_or, not_not] at hrepeats
    exact hrepeats.2.symm

theorem mem_keys_allListed_iff {language code : Text} (hmem : (language, code) ∈ longCodes) :
    code ∈ Dict.keys (allListed default text) ↔ language = english ∨ text language ≠ default := by
  rw [← not_iff_not, ← Dict.get?_eq_none_iff, get?_allListed hmem]
  split
  · rename_i hlisted
    simp [hlisted]
  · rename_i hrepeats
    simp [hrepeats]

/-! ## All lookups -/

theorem result_formatLanguages_cons [Platform] (l : Localizer) (fs : FileSystem)
    (context : Option RequestContext) (bundle : Bundle) (key : Value)
    (default language code : Text) (rest : List (Text × Text)) (s : Store) :
    let looked := l.formatLocale fs context (.text language) bundle [key] s
    (l.formatLanguages fs context bundle key default ((language, code) :: rest) s).1.result =
      looked.1.result.bind fun text =>
        (l.formatLanguages fs context bundle key default rest looked.2).1.result.map fun others =>
          if language = english ∨ text ≠ default then (code, text) :: others else others := by
  intro looked
  rw [formatLanguages, Lookup.result_bind]
  congr 1
  funext text
  exact Lookup.result_bind _ _ _

theorem result_formatAll [Platform] (l : Localizer) (fs : FileSystem)
    (context : Option RequestContext) (bundle : Bundle) (key : Value) (s : Store) :
    let looked := l.formatLocale fs context (l.current context) bundle [key] s
    (l.formatAll fs context bundle key s).1.result =
      looked.1.result.bind fun default =>
        (l.formatLanguages fs context bundle key default longCodes looked.2).1.result.map
          ((defaultName, default) :: ·) := by
  intro looked
  rw [formatAll, Lookup.result_bind]
  congr 1
  funext default
  exact Lookup.result_bind _ _ _

/-- If all languages have a text, those that are to be listed are. -/
theorem result_formatLanguages_of_ok [Platform] (h : l.LoadsTo fs s t) (hs : s.KnowsHeld)
    (hbundle : ∀ id, bundle.precomputed = some id → id < s.nextId) (default : Text)
    (htext : ∀ entry ∈ languages,
      (l.formatLocale fs context (.text entry.1) bundle [key] s).1.result = .ok (text entry.1)) :
    (l.formatLanguages fs context bundle key default languages t).1.result =
      .ok (listed default text languages) := by
  induction languages generalizing t with
  | nil => rfl
  | cons entry rest ih =>
      obtain ⟨language, code⟩ := entry
      obtain ⟨hfirst, hrest⟩ := List.forall_mem_cons.1 htext
      rw [← h.result_formatLocale hs hbundle] at hfirst
      have hothers := ih (h.formatLocale context (.text language) bundle [key]) hrest
      rw [result_formatLanguages_cons, hfirst, listed_cons]
      exact congrArg (Except.map _) hothers

/-- The first language that has no text makes all of them fail. -/
theorem result_formatLanguages_of_failsFirst [Platform] (h : l.LoadsTo fs s t) (hs : s.KnowsHeld)
    (hbundle : ∀ id, bundle.precomputed = some id → id < s.nextId) (default : Text)
    (hfails : FailsFirst (fun locale =>
        (l.formatLocale fs context locale bundle [key] s).1.result)
      (languages.map fun (language, _) => Value.text language) e) :
    (l.formatLanguages fs context bundle key default languages t).1.result = .error e := by
  induction languages generalizing t with
  | nil => exact absurd hfails (not_failsFirst_nil _ e)
  | cons entry rest ih =>
      obtain ⟨language, code⟩ := entry
      let rendered := fun locale => (l.formatLocale fs context locale bundle [key] s).1.result
      rw [result_formatLanguages_cons, h.result_formatLocale hs hbundle]
      cases hfirst : rendered (.text language) with
      | error first =>
          obtain rfl := (failsFirst_cons_of_error hfirst _).1 hfails
          exact congrArg (Except.bind · _) hfirst
      | ok text =>
          have hrest := (failsFirst_cons_of_ok hfirst _).1 hfails
          have hothers := ih (h.formatLocale context (.text language) bundle [key]) hrest
          refine (congrArg (Except.bind · _) hfirst).trans ?_
          exact congrArg (Except.map _) hothers

/-- The locales that a key is looked up in for its texts in all languages. -/
def locales (l : Localizer) (context : Option RequestContext) : List Value :=
  l.current context :: longCodes.map fun (language, _) => .text language

/-- What comes of the texts in all languages. -/
theorem formatAll_cases [Platform] (hs : s.KnowsHeld)
    (hbundle : ∀ id, bundle.precomputed = some id → id < s.nextId) (l : Localizer)
    (fs : FileSystem) (context : Option RequestContext) (key : Value) :
    let rendered := fun locale => (l.formatLocale fs context locale bundle [key] s).1.result
    let all := (l.formatAll fs context bundle key s).1.result
    (∃ e, FailsFirst rendered (l.locales context) e ∧ all = .error e) ∨
      ∃ default text, rendered (l.current context) = .ok default ∧
        (∀ entry ∈ longCodes, rendered (.text entry.1) = .ok (text entry.1)) ∧
        all = .ok (allListed default text) := by
  intro rendered all
  let looked := l.formatLocale fs context (l.current context) bundle [key] s
  have hloads : l.LoadsTo fs s looked.2 := (LoadsTo.refl l fs s).formatLocale _ _ _ _
  have hall : all = (rendered (l.current context)).bind fun default =>
      (l.formatLanguages fs context bundle key default longCodes looked.2).1.result.map
        ((defaultName, default) :: ·) := l.result_formatAll fs context bundle key s
  obtain hok | ⟨e, hfails⟩ := all_ok_or_failsFirst rendered (l.locales context)
  · obtain ⟨⟨default, hdefault⟩, htexts⟩ := List.forall_mem_cons.1 hok
    obtain ⟨text, htext⟩ : ∃ text : Text → Text, ∀ entry ∈ longCodes,
        rendered (.text entry.1) = .ok (text entry.1) := by
      refine ⟨fun language => (rendered (.text language)).toOption.getD [], ?_⟩
      intro entry hentry
      obtain ⟨found, hfound⟩ := htexts (.text entry.1) (List.mem_map.2 ⟨entry, hentry, rfl⟩)
      dsimp only
      rw [hfound]
      rfl
    have hlisted := result_formatLanguages_of_ok hloads hs hbundle default htext
    refine .inr ⟨default, text, hdefault, htext, hall.trans ?_⟩
    rw [hdefault]
    exact congrArg (Except.map _) hlisted
  · refine .inl ⟨e, hfails, hall.trans ?_⟩
    cases hcurrent : rendered (l.current context) with
    | error first => exact congrArg Except.error ((failsFirst_cons_of_error hcurrent _).1 hfails)
    | ok default =>
        have hlanguages := (failsFirst_cons_of_ok hcurrent _).1 hfails
        have herror := result_formatLanguages_of_failsFirst hloads hs hbundle default hlanguages
        exact congrArg (Except.map _) herror

end Localizer

end Locale

end Phrasebook
