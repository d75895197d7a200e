import ShoppingWeb.Access.WebRequests

/-!
# Who reaches the handlers of the catalog service

The rules of `SecurityConfig`, in their order, against the mappings of the
controllers.  The rules that open `/api/users/login` and `/api/users/register`
name no method, so they open the deletion of users of these ids, too.
-/

namespace ShoppingWeb.Access

open ShoppingWeb.Utf16
open ShoppingWeb.AccessRules

def administrators : List JString := [js "SCOPE_admin", js "ROLE_ADMIN"]

/-- `SecurityConfig.filterChain` -/
def catalogRules : List (AccessRule Target Caller) :=
  [requestMatchers (some .OPTIONS) ["/**"] .permitAll,
    requestMatchers none
      ["/swagger-ui/**", "/swagger-ui.html", "/v3/api-docs/**", "/v3/api-docs",
        "/swagger-resources/**", "/webjars/**"] .permitAll,
    requestMatchers (some .GET) ["/api/products", "/api/products/**"] .permitAll,
    requestMatchers (some .GET) ["/api/categories", "/api/categories/**"] .permitAll,
    requestMatchers none ["/api/users/login", "/api/users/register"] .permitAll,
    requestMatchers none ["/actuator/health"] .permitAll,
    requestMatchers (some .POST) ["/api/products/**"] (.hasAnyAuthority administrators),
    requestMatchers (some .PUT) ["/api/products/**"] (.hasAnyAuthority administrators),
    requestMatchers (some .DELETE) ["/api/products/**"] (.hasAnyAuthority administrators),
    requestMatchers none ["/api/users/**"] (.hasAnyAuthority administrators),
    anyRequest .authenticated]

/-- A handler with the text of its path variable. -/
inductive CatalogHandler where
  | getAllProducts
  | getProductById (id : JString)
  | createProduct
  | updateProduct (id : JString)
  | deleteProduct (id : JString)
  | getAllUsers
  | softDeleteUser (id : JString)
  | login
  | register
  | getAllCategories
  deriving DecidableEq, Repr

def catalogMappings : List (Mapping CatalogHandler) :=
  [plainMapping .GET "/api/products" .getAllProducts,
    variableMapping .GET "/api/products" .getProductById,
    plainMapping .POST "/api/products" .createProduct,
    variableMapping .PUT "/api/products" .updateProduct,
    variableMapping .DELETE "/api/products" .deleteProduct,
    plainMapping .GET "/api/users" .getAllUsers,
    variableMapping .DELETE "/api/users" .softDeleteUser,
    plainMapping .POST "/api/users/login" .login,
    plainMapping .POST "/api/users/register" .register,
    plainMapping .GET "/api/categories" .getAllCategories]

def Caller.IsAdmin (caller : Caller) : Prop :=
  (Authorization.hasAnyAuthority administrators).admits caller = true

instance (caller : Caller) : Decidable caller.IsAdmin := inferInstanceAs (Decidable (_ = true))

/-- Who may call a handler, by a request with the method. -/
def CatalogHandler.MayBeCalled (method : HttpMethod) (caller : Caller) : CatalogHandler → Prop
  | .getAllProducts | .getProductById _ | .getAllCategories => method = .GET ∨ caller ≠ none
  | .createProduct | .updateProduct _ | .deleteProduct _ | .getAllUsers => caller.IsAdmin
  | .softDeleteUser id => id = js "login" ∨ id = js "register" ∨ caller.IsAdmin
  | .login | .register => True

/-- An administrator must call it. -/
def CatalogHandler.IsRestricted : CatalogHandler → Prop
  | .createProduct | .updateProduct _ | .deleteProduct _ | .getAllUsers => True
  | .softDeleteUser id => id ≠ js "login" ∧ id ≠ js "register"
  | .getAllProducts | .getProductById _ | .getAllCategories | .login | .register => False

theorem mayBeCalled_some_iff {handler : CatalogHandler} {method : HttpMethod}
    {held : List JString} :
    handler.MayBeCalled method (some held) ↔
      (handler.IsRestricted → Caller.IsAdmin (some held)) := by
  cases handler with
  | softDeleteUser id =>
      rw [CatalogHandler.MayBeCalled, CatalogHandler.IsRestricted, ← or_assoc, ← not_or]
      exact or_iff_not_imp_left
  | _ => simp [CatalogHandler.MayBeCalled, CatalogHandler.IsRestricted]

theorem authenticated_admits {caller : Caller} :
    Authorization.authenticated.admits caller = true ↔ caller ≠ none := by
  cases caller <;> simp [Authorization.admits]

/-- A rule that opens `GET` alone leaves `HEAD` to the last rule. -/
theorem admitted_read_iff {path : List JString} {method : HttpMethod} {caller : Caller}
    (hserves : HttpMethod.GET.serves method = true)
    (hget : admitted catalogRules ⟨.GET, path⟩ caller = true)
    (hhead : admitted catalogRules ⟨.HEAD, path⟩ caller =
      Authorization.authenticated.admits caller) :
    admitted catalogRules ⟨method, path⟩ caller = true ↔ method = .GET ∨ caller ≠ none := by
  rcases serves_get_iff.mp hserves with rfl | rfl
  · simp [hget]
  · rw [hhead, authenticated_admits]
    simp

/-- The rule that opens the two paths, for every method. -/
theorem opened_covers_iff (method : HttpMethod) (id : JString) :
    (requestMatchers none ["/api/users/login", "/api/users/register"] .permitAll).covers
        ⟨method, [[], js "api", js "users", id]⟩ = true ↔
      id = js "login" ∨ id = js "register" := by
  have hlogin : pathPattern "/api/users/login" =
      .exact [[], js "api", js "users", js "login"] := by decide
  have hregister : pathPattern "/api/users/register" =
      .exact [[], js "api", js "users", js "register"] := by decide
  simp only [requestMatchers, hlogin, hregister, CatalogService.PathPattern.covers,
    Option.isNone_none, Bool.true_or, Bool.true_and, List.any_cons, List.any_nil, Bool.or_false,
    Bool.or_eq_true, beq_iff_eq, List.cons.injEq, true_and, and_true]
  exact or_congr eq_comm eq_comm

theorem admitted_softDeleteUser_iff {id : JString} {caller : Caller} :
    admitted catalogRules ⟨.DELETE, [[], js "api", js "users", id]⟩ caller = true ↔
      id = js "login" ∨ id = js "register" ∨ caller.IsAdmin := by
  have hearlier : admitted catalogRules ⟨.DELETE, [[], js "api", js "users", id]⟩ caller =
      admitted (catalogRules.drop 4) ⟨.DELETE, [[], js "api", js "users", id]⟩ caller := rfl
  rw [hearlier, ← or_assoc]
  by_cases hopened : id = js "login" ∨ id = js "register"
  · rw [← opened_covers_iff .DELETE] at hopened
    rw [show catalogRules.drop 4 = _ :: catalogRules.drop 5 from rfl, admitted_of_covers hopened]
    exact iff_of_true rfl (.inl ((opened_covers_iff .DELETE id).mp hopened))
  · have hcovers := Bool.eq_false_iff.mpr (mt (opened_covers_iff .DELETE id).mp hopened)
    rw [show catalogRules.drop 4 = _ :: catalogRules.drop 5 from rfl,
      admitted_of_not_covers hcovers, or_iff_right hopened]
    exact Iff.rfl

/-- A request that a mapping serves gets past the rules exactly if its caller
may call the handler. -/
theorem catalog_admits_iff {target : Target} {handler : CatalogHandler} {caller : Caller}
    (hdispatch : dispatch catalogMappings target = some handler) :
    admitted catalogRules target caller = true ↔ handler.MayBeCalled target.method caller := by
  obtain ⟨mapping, hmapping, hserve⟩ := exists_of_dispatch hdispatch
  simp only [catalogMappings, List.mem_cons, List.not_mem_nil, or_false] at hmapping
  rcases hmapping with rfl | rfl | rfl | rfl | rfl | rfl | rfl | rfl | rfl | rfl
  · obtain ⟨hmethod, hpath, rfl⟩ := serve_plainMapping_iff.mp hserve
    obtain ⟨method, path⟩ := target
    obtain rfl : path = _ := hpath
    exact admitted_read_iff hmethod rfl rfl
  · obtain ⟨hmethod, segment, -, hpath, rfl⟩ := serve_variableMapping_iff.mp hserve
    obtain ⟨method, path⟩ := target
    obtain rfl : path = _ := hpath
    exact admitted_read_iff hmethod rfl rfl
  · obtain ⟨htarget, rfl⟩ := eq_of_serve_plainMapping (by decide) hserve
    rw [htarget]
    exact Iff.rfl
  · obtain ⟨segment, htarget, rfl⟩ := eq_of_serve_variableMapping (by decide) hserve
    rw [htarget]
    exact Iff.rfl
  · obtain ⟨segment, htarget, rfl⟩ := eq_of_serve_variableMapping (by decide) hserve
    rw [htarget]
    exact Iff.rfl
  · obtain ⟨hmethod, hpath, rfl⟩ := serve_plainMapping_iff.mp hserve
    obtain ⟨method, path⟩ := target
    obtain rfl : path = _ := hpath
    rcases serves_get_iff.mp hmethod with rfl | rfl
    · exact Iff.rfl
    · exact Iff.rfl
  · obtain ⟨segment, htarget, rfl⟩ := eq_of_serve_variableMapping (by decide) hserve
    rw [htarget]
    exact admitted_softDeleteUser_iff
  · obtain ⟨htarget, rfl⟩ := eq_of_serve_plainMapping (by decide) hserve
    rw [htarget]
    exact iff_of_true rfl trivial
  · obtain ⟨htarget, rfl⟩ := eq_of_serve_plainMapping (by decide) hserve
    rw [htarget]
    exact iff_of_true rfl trivial
  · obtain ⟨hmethod, hpath, rfl⟩ := serve_plainMapping_iff.mp hserve
    obtain ⟨method, path⟩ := target
    obtain rfl : path = _ := hpath
    exact admitted_read_iff hmethod rfl rfl

end ShoppingWeb.Access
