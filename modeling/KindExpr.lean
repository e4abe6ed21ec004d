import KindExpr.Main
import KindExpr.Session.Basic
import KindExpr.Proofs.Cache.Accounts
import KindExpr.Proofs.Cache.Failure
import KindExpr.Proofs.Cache.Inclusion
import KindExpr.Proofs.Cache.Recency
import KindExpr.Proofs.Check.Explanation
import KindExpr.Proofs.Check.Membership
import KindExpr.Proofs.Check.Synonyms
import KindExpr.Proofs.Check.WellFormed
import KindExpr.Proofs.CommandLine.Check
import KindExpr.Proofs.CommandLine.Preload
import KindExpr.Proofs.Expr.Derivation
import KindExpr.Proofs.Expr.Ending
import KindExpr.Proofs.Expr.Escaping
import KindExpr.Proofs.Expr.Outline
import KindExpr.Proofs.Expr.Placement
import KindExpr.Proofs.Expr.Substitution
import KindExpr.Proofs.Expr.Viable
import KindExpr.Proofs.Pattern.Detour
import KindExpr.Proofs.Preload.Shape
import KindExpr.Proofs.Session.Agreement
import KindExpr.Proofs.Session.Configuration
import KindExpr.Proofs.Session.Flattening
import KindExpr.Proofs.Settings.CacheSize
import KindExpr.Proofs.Value.Rendering
