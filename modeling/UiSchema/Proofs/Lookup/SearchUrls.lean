import UiSchema.Lookup.Option
import UiSchema.Proofs.Url.FormDecoding

/-!
# The URLs of searches

A search adds one parameter to the URL of the fetch action: the search field with the query, form
encoded, behind the character that the action leaves open. The parameter is read back as that pair,
so no two searches share a URL.
-/

namespace UiSchema.LookupProperties

set_option autoImplicit false

variable {action field query : String}

theorem toList_searchUrl (h : query ≠ "") : (searchUrl action field (some query)).toList =
    action.toList ++ (if '?' ∈ action.toList then '&' else '?') :: Url.formPair field query := by
  rw [searchUrl, if_neg h]
  by_cases hmark : '?' ∈ action.toList
  · simp [hmark]
  · simp [hmark]

theorem searchUrl_injective {field' query' : String} (h : query ≠ "") (h' : query' ≠ "")
    (heq : searchUrl action field' (some query') = searchUrl action field (some query)) :
    field' = field ∧ query' = query := by
  have hchars := congrArg String.toList heq
  rw [toList_searchUrl h, toList_searchUrl h', List.append_cancel_left_eq, List.cons.injEq] at hchars
  have hread := congrArg Url.formParameters? hchars.2
  rw [Url.formParameters?_formPair, Url.formParameters?_formPair] at hread
  simpa using hread

/-- A search asks at the fetch action with one more parameter, which is read back as the search field
and the query. The parameter consists of plain characters, pluses, percent escapes and one equals
sign. Other searches of the action have other URLs, and without a query the action itself is asked. -/
theorem searchUrl_readBack (action field query : String) (h : query ≠ "") :
    (∃ name value : List Char, Url.FormText name ∧ Url.FormText value ∧
      (searchUrl action field (some query)).toList = action.toList ++
        (if '?' ∈ action.toList then '&' else '?') :: (name ++ '=' :: value) ∧
      (name ++ '=' :: value).count '=' = 1 ∧
      (∀ c ∈ ['&', '?', '#'], c ∉ name ++ '=' :: value) ∧
      Url.formParameters? (name ++ '=' :: value) = some [(field, query)]) ∧
    (∀ field' query', query' ≠ "" →
      searchUrl action field' (some query') = searchUrl action field (some query) →
      field' = field ∧ query' = query) ∧
    ∀ field', searchUrl action field' (some "") = action ∧ searchUrl action field' none = action := by
  refine ⟨⟨Url.formEncode field, Url.formEncode query, Url.formText_formEncode field,
    Url.formText_formEncode query, toList_searchUrl h, Url.count_equals_formPair field query,
    fun c hc => Url.not_mem_formPair field query hc, Url.formParameters?_formPair field query⟩,
    ?_, ?_⟩
  · exact fun field' query' h' heq => searchUrl_injective h h' heq
  · exact fun field' => ⟨rfl, rfl⟩

theorem people_search_readBack : "Grün & Co" ≠ "" ∧
    searchUrl "/people?active=1" "na me" (some "Grün & Co") =
      "/people?active=1&na+me=Gr%C3%BCn+%26+Co" ∧
    Url.formParameters? "na+me=Gr%C3%BCn+%26+Co".toList = some [("na me", "Grün & Co")] ∧
    searchUrl "/people?active=1" "na me" (some "Grün") ≠
      searchUrl "/people?active=1" "na me" (some "Grün & Co") := by
  have hquery : "Grün & Co" ≠ "" := by decide
  obtain ⟨⟨name, value, _, _, htext, _, _, hread⟩, hother, _⟩ :=
    searchUrl_readBack "/people?active=1" "na me" "Grün & Co" hquery
  have hurl : searchUrl "/people?active=1" "na me" (some "Grün & Co") =
      "/people?active=1&na+me=Gr%C3%BCn+%26+Co" := by decide +kernel
  have hparts : "/people?active=1&na+me=Gr%C3%BCn+%26+Co".toList =
      "/people?active=1".toList ++ '&' :: "na+me=Gr%C3%BCn+%26+Co".toList := by decide
  rw [hurl, hparts, if_pos (by decide), List.append_cancel_left_eq, List.cons.injEq] at htext
  rw [← htext.2] at hread
  refine ⟨hquery, hurl, hread, fun heq => ?_⟩
  exact absurd (hother "na me" "Grün" (by decide) heq).2 (by decide)

end UiSchema.LookupProperties
