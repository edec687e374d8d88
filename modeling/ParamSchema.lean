import ParamSchema.Main
import ParamSchema.Proofs.Binary64.Multiples
import ParamSchema.Proofs.Binary64.Whole
import ParamSchema.Proofs.CommandLine.Run
import ParamSchema.Proofs.Format.Base64
import ParamSchema.Proofs.Format.DateTime
import ParamSchema.Proofs.Json.Distinct
import ParamSchema.Proofs.Json.Reader
import ParamSchema.Proofs.Message.Catalog
import ParamSchema.Proofs.Message.Substitution
import ParamSchema.Proofs.Message.Wording
import ParamSchema.Proofs.Parameter
import ParamSchema.Proofs.Pattern.Adaptation
import ParamSchema.Proofs.Pattern.Brackets
import ParamSchema.Proofs.Pattern.Class
import ParamSchema.Proofs.Pattern.Composition
import ParamSchema.Proofs.Pattern.Meaning
import ParamSchema.Proofs.Pattern.Openings
import ParamSchema.Proofs.Schema.Independence
import ParamSchema.Proofs.Schema.Location
import ParamSchema.Proofs.Schema.Nodes
import ParamSchema.Proofs.Schema.Relaxation
import ParamSchema.Proofs.Schema.Strictness
import ParamSchema.Proofs.Session
import ParamSchema.Proofs.Validation.Blame
import ParamSchema.Proofs.Validation.Choices
import ParamSchema.Proofs.Validation.Limit
import ParamSchema.Proofs.Validation.Location
