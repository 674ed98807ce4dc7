import ModelGateway.Generation.Shape

namespace ModelGateway

namespace Record

def fields : Record → List Field
  | .generation => [
      ⟨"httpOptions", .optional (.record .httpOptions)⟩,
      ⟨"systemInstruction", .optional (.record .content)⟩,
      ⟨"temperature", .optional .float32⟩,
      ⟨"topP", .optional .float32⟩,
      ⟨"topK", .optional .float32⟩,
      ⟨"candidateCount", .int32⟩,
      ⟨"maxOutputTokens", .int32⟩,
      ⟨"stopSequences", .list .string⟩,
      ⟨"responseLogprobs", .bool⟩,
      ⟨"logprobs", .optional .int32⟩,
      ⟨"presencePenalty", .optional .float32⟩,
      ⟨"frequencyPenalty", .optional .float32⟩,
      ⟨"seed", .optional .int32⟩,
      ⟨"responseMimeType", .string⟩,
      ⟨"responseSchema", .optional (.record .schema)⟩,
      ⟨"responseJsonSchema", .any⟩,
      ⟨"routingConfig", .optional (.record .routing)⟩,
      ⟨"modelSelectionConfig", .optional (.record .modelSelectionConfig)⟩,
      ⟨"safetySettings", .list (.optional (.record .safetySetting))⟩,
      ⟨"tools", .list (.optional (.record .tool))⟩,
      ⟨"toolConfig", .optional (.record .toolConfig)⟩,
      ⟨"labels", .table .string⟩,
      ⟨"cachedContent", .string⟩,
      ⟨"responseModalities", .list .string⟩,
      ⟨"mediaResolution", .text "genai.MediaResolution"⟩,
      ⟨"speechConfig", .optional (.record .speechConfig)⟩,
      ⟨"audioTimestamp", .bool⟩,
      ⟨"thinkingConfig", .optional (.record .thinkingConfig)⟩,
      ⟨"imageConfig", .optional (.record .imageConfig)⟩,
      ⟨"enableEnhancedCivicAnswers", .optional .bool⟩]
  | .httpOptions => [
      ⟨"baseUrl", .string⟩,
      ⟨"apiVersion", .string⟩,
      ⟨"headers", .table (.list .string)⟩,
      ⟨"timeout", .optional .duration⟩,
      ⟨"extraBody", .table .any⟩,
      ⟨"-", .callback⟩]
  | .content => [
      ⟨"parts", .list (.optional (.record .part))⟩,
      ⟨"role", .string⟩]
  | .schema => [
      ⟨"anyOf", .list (.optional (.record .schema))⟩,
      ⟨"default", .any⟩,
      ⟨"description", .string⟩,
      ⟨"enum", .list .string⟩,
      ⟨"example", .any⟩,
      ⟨"format", .string⟩,
      ⟨"items", .optional (.record .schema)⟩,
      ⟨"maxItems", .optional .int64⟩,
      ⟨"maxLength", .optional .int64⟩,
      ⟨"maxProperties", .optional .int64⟩,
      ⟨"maximum", .optional .float64⟩,
      ⟨"minItems", .optional .int64⟩,
      ⟨"minLength", .optional .int64⟩,
      ⟨"minProperties", .optional .int64⟩,
      ⟨"minimum", .optional .float64⟩,
      ⟨"nullable", .optional .bool⟩,
      ⟨"pattern", .string⟩,
      ⟨"properties", .table (.optional (.record .schema))⟩,
      ⟨"propertyOrdering", .list .string⟩,
      ⟨"required", .list .string⟩,
      ⟨"title", .string⟩,
      ⟨"type", .text "genai.Type"⟩]
  | .routing => [
      ⟨"autoMode", .optional (.record .automaticRouting)⟩,
      ⟨"manualMode", .optional (.record .manualRouting)⟩]
  | .modelSelectionConfig => [
      ⟨"featureSelectionPreference", .text "genai.FeatureSelectionPreference"⟩]
  | .safetySetting => [
      ⟨"category", .text "genai.HarmCategory"⟩,
      ⟨"method", .text "genai.HarmBlockMethod"⟩,
      ⟨"threshold", .text "genai.HarmBlockThreshold"⟩]
  | .tool => [
      ⟨"functionDeclarations",
        .list (.optional (.record .functionDeclaration))⟩,
      ⟨"retrieval", .optional (.record .retrieval)⟩,
      ⟨"googleSearchRetrieval", .optional (.record .googleSearchRetrieval)⟩,
      ⟨"computerUse", .optional (.record .computerUse)⟩,
      ⟨"fileSearch", .optional (.record .fileSearch)⟩,
      ⟨"codeExecution", .optional (.record .codeExecution)⟩,
      ⟨"enterpriseWebSearch", .optional (.record .enterpriseWebSearch)⟩,
      ⟨"googleMaps", .optional (.record .googleMaps)⟩,
      ⟨"googleSearch", .optional (.record .googleSearch)⟩,
      ⟨"urlContext", .optional (.record .urlContext)⟩]
  | .toolConfig => [
      ⟨"functionCallingConfig", .optional (.record .functionCallingConfig)⟩,
      ⟨"retrievalConfig", .optional (.record .retrievalConfig)⟩]
  | .speechConfig => [
      ⟨"voiceConfig", .optional (.record .voiceConfig)⟩,
      ⟨"languageCode", .string⟩,
      ⟨"multiSpeakerVoiceConfig", .optional (.record .multiSpeakerVoiceConfig)⟩]
  | .thinkingConfig => [
      ⟨"includeThoughts", .bool⟩,
      ⟨"thinkingBudget", .optional .int32⟩,
      ⟨"thinkingLevel", .text "genai.ThinkingLevel"⟩]
  | .imageConfig => [
      ⟨"aspectRatio", .string⟩,
      ⟨"imageSize", .string⟩,
      ⟨"outputMimeType", .string⟩,
      ⟨"outputCompressionQuality", .optional .int32⟩]
  | .part => [
      ⟨"mediaResolution", .optional (.record .partMediaResolution)⟩,
      ⟨"codeExecutionResult", .optional (.record .codeExecutionResult)⟩,
      ⟨"executableCode", .optional (.record .executableCode)⟩,
      ⟨"fileData", .optional (.record .fileData)⟩,
      ⟨"functionCall", .optional (.record .functionCall)⟩,
      ⟨"functionResponse", .optional (.record .functionResponse)⟩,
      ⟨"inlineData", .optional (.record .blob)⟩,
      ⟨"text", .string⟩,
      ⟨"thought", .bool⟩,
      ⟨"thoughtSignature", .list .byte⟩,
      ⟨"videoMetadata", .optional (.record .videoMetadata)⟩]
  | .automaticRouting => [
      ⟨"modelRoutingPreference", .string⟩]
  | .manualRouting => [
      ⟨"modelName", .string⟩]
  | .functionDeclaration => [
      ⟨"behavior", .text "genai.Behavior"⟩,
      ⟨"description", .string⟩,
      ⟨"name", .string⟩,
      ⟨"parameters", .optional (.record .schema)⟩,
      ⟨"parametersJsonSchema", .any⟩,
      ⟨"response", .optional (.record .schema)⟩,
      ⟨"responseJsonSchema", .any⟩]
  | .retrieval => [
      ⟨"disableAttribution", .bool⟩,
      ⟨"externalApi", .optional (.record .externalApi)⟩,
      ⟨"vertexAiSearch", .optional (.record .vertexAiSearch)⟩,
      ⟨"vertexRagStore", .optional (.record .ragStore)⟩]
  | .googleSearchRetrieval => [
      ⟨"dynamicRetrievalConfig", .optional (.record .dynamicRetrievalConfig)⟩]
  | .computerUse => [
      ⟨"environment", .text "genai.Environment"⟩,
      ⟨"excludedPredefinedFunctions", .list .string⟩]
  | .fileSearch => [
      ⟨"fileSearchStoreNames", .list .string⟩,
      ⟨"topK", .optional .int32⟩,
      ⟨"metadataFilter", .string⟩]
  | .codeExecution => []
  | .enterpriseWebSearch => [
      ⟨"excludeDomains", .list .string⟩,
      ⟨"blockingConfidence", .text "genai.PhishBlockThreshold"⟩]
  | .googleMaps => [
      ⟨"authConfig", .optional (.record .authConfig)⟩,
      ⟨"enableWidget", .optional .bool⟩]
  | .googleSearch => [
      ⟨"excludeDomains", .list .string⟩,
      ⟨"blockingConfidence", .text "genai.PhishBlockThreshold"⟩,
      ⟨"timeRangeFilter", .optional (.record .interval)⟩]
  | .urlContext => []
  | .functionCallingConfig => [
      ⟨"mode", .text "genai.FunctionCallingConfigMode"⟩,
      ⟨"allowedFunctionNames", .list .string⟩,
      ⟨"streamFunctionCallArguments", .optional .bool⟩]
  | .retrievalConfig => [
      ⟨"latLng", .optional (.record .latLng)⟩,
      ⟨"languageCode", .string⟩]
  | .voiceConfig => [
      ⟨"replicatedVoiceConfig", .optional (.record .replicatedVoiceConfig)⟩,
      ⟨"prebuiltVoiceConfig", .optional (.record .prebuiltVoiceConfig)⟩]
  | .multiSpeakerVoiceConfig => [
      ⟨"speakerVoiceConfigs", .list (.optional (.record .speakerVoiceConfig))⟩]
  | .partMediaResolution => [
      ⟨"level", .text "genai.PartMediaResolutionLevel"⟩,
      ⟨"numTokens", .optional .int32⟩]
  | .codeExecutionResult => [
      ⟨"outcome", .text "genai.Outcome"⟩,
      ⟨"output", .string⟩]
  | .executableCode => [
      ⟨"code", .string⟩,
      ⟨"language", .text "genai.Language"⟩]
  | .fileData => [
      ⟨"displayName", .string⟩,
      ⟨"fileUri", .string⟩,
      ⟨"mimeType", .string⟩]
  | .functionCall => [
      ⟨"id", .string⟩,
      ⟨"args", .table .any⟩,
      ⟨"name", .string⟩,
      ⟨"partialArgs", .list (.optional (.record .partialArg))⟩,
      ⟨"willContinue", .optional .bool⟩]
  | .functionResponse => [
      ⟨"willContinue", .optional .bool⟩,
      ⟨"scheduling", .text "genai.FunctionResponseScheduling"⟩,
      ⟨"parts", .list (.optional (.record .functionResponsePart))⟩,
      ⟨"id", .string⟩,
      ⟨"name", .string⟩,
      ⟨"response", .table .any⟩]
  | .blob => [
      ⟨"data", .list .byte⟩,
      ⟨"displayName", .string⟩,
      ⟨"mimeType", .string⟩]
  | .videoMetadata => [
      ⟨"endOffset", .duration⟩,
      ⟨"fps", .optional .float64⟩,
      ⟨"startOffset", .duration⟩]
  | .externalApi => [
      ⟨"apiAuth", .optional (.record .apiAuth)⟩,
      ⟨"apiSpec", .text "genai.APISpec"⟩,
      ⟨"authConfig", .optional (.record .authConfig)⟩,
      ⟨"elasticSearchParams", .optional (.record .elasticSearch)⟩,
      ⟨"endpoint", .string⟩,
      ⟨"simpleSearchParams", .optional (.record .simpleSearch)⟩]
  | .vertexAiSearch => [
      ⟨"dataStoreSpecs", .list (.optional (.record .dataStoreSpec))⟩,
      ⟨"datastore", .string⟩,
      ⟨"engine", .string⟩,
      ⟨"filter", .string⟩,
      ⟨"maxResults", .optional .int32⟩]
  | .ragStore => [
      ⟨"ragCorpora", .list .string⟩,
      ⟨"ragResources", .list (.optional (.record .ragResource))⟩,
      ⟨"ragRetrievalConfig", .optional (.record .ragRetrieval)⟩,
      ⟨"similarityTopK", .optional .int32⟩,
      ⟨"storeContext", .optional .bool⟩,
      ⟨"vectorDistanceThreshold", .optional .float64⟩]
  | .dynamicRetrievalConfig => [
      ⟨"mode", .text "genai.DynamicRetrievalConfigMode"⟩,
      ⟨"dynamicThreshold", .optional .float32⟩]
  | .authConfig => [
      ⟨"apiKeyConfig", .optional (.record .apiKeyConfig)⟩,
      ⟨"authType", .text "genai.AuthType"⟩,
      ⟨"googleServiceAccountConfig", .optional (.record .serviceAccountAuth)⟩,
      ⟨"httpBasicAuthConfig", .optional (.record .basicAuth)⟩,
      ⟨"oauthConfig", .optional (.record .oauth)⟩,
      ⟨"oidcConfig", .optional (.record .oidc)⟩]
  | .interval => [
      ⟨"endTime", .record .instant⟩,
      ⟨"startTime", .record .instant⟩]
  | .latLng => [
      ⟨"latitude", .optional .float64⟩,
      ⟨"longitude", .optional .float64⟩]
  | .replicatedVoiceConfig => [
      ⟨"mimeType", .string⟩,
      ⟨"voiceSampleAudio", .list .byte⟩]
  | .prebuiltVoiceConfig => [
      ⟨"voiceName", .string⟩]
  | .speakerVoiceConfig => [
      ⟨"speaker", .string⟩,
      ⟨"voiceConfig", .optional (.record .voiceConfig)⟩]
  | .partialArg => [
      ⟨"nullValue", .string⟩,
      ⟨"numberValue", .optional .float64⟩,
      ⟨"stringValue", .string⟩,
      ⟨"boolValue", .optional .bool⟩,
      ⟨"jsonPath", .string⟩,
      ⟨"willContinue", .optional .bool⟩]
  | .functionResponsePart => [
      ⟨"inlineData", .optional (.record .functionResponseBlob)⟩,
      ⟨"fileData", .optional (.record .functionResponseFileData)⟩]
  | .apiAuth => [
      ⟨"apiKeyConfig", .optional (.record .apiAuthKey)⟩]
  | .elasticSearch => [
      ⟨"index", .string⟩,
      ⟨"numHits", .optional .int32⟩,
      ⟨"searchTemplate", .string⟩]
  | .simpleSearch => []
  | .dataStoreSpec => [
      ⟨"dataStore", .string⟩,
      ⟨"filter", .string⟩]
  | .ragResource => [
      ⟨"ragCorpus", .string⟩,
      ⟨"ragFileIds", .list .string⟩]
  | .ragRetrieval => [
      ⟨"filter", .optional (.record .ragFilter)⟩,
      ⟨"hybridSearch", .optional (.record .ragHybridSearch)⟩,
      ⟨"ranking", .optional (.record .ragRanking)⟩,
      ⟨"topK", .optional .int32⟩]
  | .apiKeyConfig => [
      ⟨"apiKeySecret", .string⟩,
      ⟨"apiKeyString", .string⟩,
      ⟨"httpElementLocation", .text "genai.HTTPElementLocation"⟩,
      ⟨"name", .string⟩]
  | .serviceAccountAuth => [
      ⟨"serviceAccount", .string⟩]
  | .basicAuth => [
      ⟨"credentialSecret", .string⟩]
  | .oauth => [
      ⟨"accessToken", .string⟩,
      ⟨"serviceAccount", .string⟩]
  | .oidc => [
      ⟨"idToken", .string⟩,
      ⟨"serviceAccount", .string⟩]
  | .functionResponseBlob => [
      ⟨"mimeType", .string⟩,
      ⟨"data", .list .byte⟩,
      ⟨"displayName", .string⟩]
  | .functionResponseFileData => [
      ⟨"fileUri", .string⟩,
      ⟨"mimeType", .string⟩,
      ⟨"displayName", .string⟩]
  | .apiAuthKey => [
      ⟨"apiKeySecretVersion", .string⟩,
      ⟨"apiKeyString", .string⟩]
  | .ragFilter => [
      ⟨"metadataFilter", .string⟩,
      ⟨"vectorDistanceThreshold", .optional .float64⟩,
      ⟨"vectorSimilarityThreshold", .optional .float64⟩]
  | .ragHybridSearch => [
      ⟨"alpha", .optional .float32⟩]
  | .ragRanking => [
      ⟨"llmRanker", .optional (.record .ragLlmRanker)⟩,
      ⟨"rankService", .optional (.record .ragRankService)⟩]
  | .ragLlmRanker => [
      ⟨"modelName", .string⟩]
  | .ragRankService => [
      ⟨"modelName", .string⟩]
  | .instant => []

end Record

end ModelGateway
