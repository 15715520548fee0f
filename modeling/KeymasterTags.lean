import KeymasterTags.Tag
import KeymasterTags.KeyParameter
import KeymasterTags.TypedTag
import KeymasterTags.NullOr
import KeymasterTags.Authorization
import KeymasterTags.Equality
import KeymasterTags.Meaning
